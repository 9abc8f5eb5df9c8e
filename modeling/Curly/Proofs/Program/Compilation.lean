import Curly.Program.Compilation
import Curly.Proofs.Program.Simple
import Curly.Proofs.Term.Code

/-!
Which templates have a program. The program is generated from the tree, and must be able to run.
If its terms are simple they are valid and every line of it is whole, so the one thing that may keep
it from running is that blocks are nested too deep; and how deep they are nested is told from the
nodes that it is generated from.
-/

namespace Curly

theorem Tree.ofTemplate_eq_ok_iff {template : String} {t : Tree} :
    ofTemplate template = .ok t ↔ ∃ ts, tokenize template = .ok ts ∧ ofTokens ts = .ok t := by
  refine Except.bind_eq_ok_iff.trans (exists_congr fun ts => ?_)
  rw [Except.mapError_eq_ok_iff, Except.mapError_eq_ok_iff]

namespace Program

variable {p : Program}

/-- The program of a template is generated from its tree, and can run. -/
theorem ofTemplate_eq_ok_iff {template : String} :
    ofTemplate template = .ok p ↔
      ∃ t, Tree.ofTemplate template = .ok t ∧ ofTree t = .ok p ∧ p.isValid = true := by
  constructor
  · intro h
    obtain ⟨t, ht, h⟩ := Except.bind_eq_ok_iff.1 h
    obtain ⟨q, hq, h⟩ := Except.bind_eq_ok_iff.1 (Except.mapError_eq_ok_iff.1 h)
    split at h
    · rename_i hvalid
      cases h
      exact ⟨t, ht, hq, hvalid⟩
    · cases h
  · rintro ⟨t, ht, hp, hvalid⟩
    rw [ofTemplate, ht]
    show (compile t).mapError _ = _
    rw [compile, hp]
    show (if p.isValid then pure p else throw _ : Except ExpressionFailure Program).mapError _ = _
    rw [if_pos hvalid]
    rfl

theorem ofTree_eq_ok_iff {t : Tree} :
    ofTree t = .ok p ↔ ∃ c, Generation.nodes [] t.children {} = .ok (p.body, c) := by
  rw [ofTree, StateT.run]
  cases h : Generation.nodes [] t.children {} with
  | error e => simp [Bind.bind, Except.bind]
  | ok r =>
      obtain ⟨ss, c⟩ := r
      constructor
      · intro hp
        cases hp
        exact ⟨c, rfl⟩
      · rintro ⟨c, hc⟩
        cases hc
        rfl

variable {P : Term → Prop} {t : Tree}

/-- A tree whose terms are simple is read so. -/
theorem nodesRead_of_ofTree (hP : Term.IsStable P) (hp : ofTree t = .ok p)
    (hterms : ∀ u ∈ p.terms, P u) : nodesRead P false t.children := by
  obtain ⟨c, hgen⟩ := ofTree_eq_ok_iff.1 hp
  exact Generation.reads_of_nodes hP t.children hgen Scope.isOf_nil rfl hterms

/-- From a tree that is read as simple terms a program of simple terms is generated. -/
theorem exists_ofTree (hP : Term.IsStable P) (hread : nodesRead P false t.children) :
    ∃ p, ofTree t = .ok p ∧ (∀ u ∈ p.terms, P u) ∧ stmtsArePlain p.body := by
  obtain ⟨ss, c, hgen, hterms, hplain⟩ :=
    Generation.exists_nodes hP {} rfl Scope.isOf_nil t.children hread
  exact ⟨⟨ss⟩, ofTree_eq_ok_iff.2 ⟨c, hgen⟩, hterms, hplain⟩

/-- The program of a tree, if its terms are simple, is made of simple terms. -/
theorem stmtsArePlain_of_isSimple (hp : ofTree t = .ok p)
    (hsimple : ∀ u ∈ p.terms, u.isSimple = true) : stmtsArePlain p.body := by
  obtain ⟨q, hq, -, hplain⟩ :=
    exists_ofTree Term.isStable_isSimple (nodesRead_of_ofTree Term.isStable_isSimple hp hsimple)
  cases hp.symm.trans hq
  exact hplain

end Program

open Lexeme

/-! ## Lines -/

theorem Term.Plain.isValid {bindings : List String} {t : Term} (ht : t.Plain bindings) :
    t.isValid = true := by
  have hoperand {t : Term} (ht : t.IsOperand bindings) : t.isValid = true := by
    cases ht <;> rfl
  cases ht with
  | operand ht => exact hoperand ht
  | comparison op hl hr => rw [Term.isValid, hoperand hl, hoperand hr, Bool.and_self]
  | truthy he =>
      have hvalid := hoperand he
      exact hvalid

theorem Term.IsPlain.isValid {t : Term} (ht : t.IsPlain) : t.isValid = true := by
  obtain ⟨scope, -, ht⟩ := ht
  exact ht.isValid

theorem Term.IsPlain.passes {t : Term} (ht : t.IsPlain) : Passes 3 t.code := by
  obtain ⟨scope, hs, ht⟩ := ht
  have hcontext : isPlainWord contextName.toList = true := by decide
  refine ht.passes fun b hb => ?_
  simp only [List.mem_cons, List.not_mem_nil, or_false] at hb
  obtain rfl | rfl := hb
  · exact hcontext
  · cases scope with
    | nil => exact hcontext
    | cons l scope =>
        obtain ⟨n, rfl⟩ := hs l List.mem_cons_self
        exact isPlainWord_of_isOfLoop ⟨n, by simp [LoopNames.all, Term.thisName]⟩

theorem Piece.IsPlain.isValid {q : Piece} (hq : q.IsPlain) : q.isValid = true := by
  cases q with
  | text => rfl
  | escaped t => exact (hq t List.mem_cons_self).isValid
  | plain t => exact (hq t List.mem_cons_self).isValid

theorem Piece.IsPlain.passes {q : Piece} (hq : q.IsPlain) : Passes 4 q.code := by
  cases q with
  | text value => exact passes_ofString value
  | escaped t =>
      exact passes_call (isPlainWord_helper _) (by simpa using (hq t List.mem_cons_self).passes)
  | plain t =>
      exact passes_call (isPlainWord_helper _) (by simpa using (hq t List.mem_cons_self).passes)

/-- A line that begins with a word is whole exactly if the lexer goes through it. -/
theorem isWhole_iff_goes {w rest : List Char} (hw : isPlainWord w = true) {text : String}
    (htext : text.toList = w ++ rest) :
    (ListingStep.line text).isWhole = true ↔ Goes [] (w ++ rest) := by
  rw [ListingStep.isWhole, htext]
  cases w with
  | nil => cases hw
  | cons c w =>
      have hc := beginsLexeme_of_isNameChar (isNameChar_of_mem hw c List.mem_cons_self)
      exact isSome_ofText_iff hc

/-- The head of a block: a word, code, and a colon. -/
theorem isWhole_head {w : List Char} (hw : isPlainWord w = true) {depth : Nat} {code text : String}
    (hcode : Passes depth code) (hdepth : depth ≤ bracketLimit)
    (htext : text.toList = w ++ ' ' :: (code.toList ++ [':'])) :
    (ListingStep.line text).isWhole = true := by
  have hcolon : Goes [] (code.toList ++ [':']) :=
    hcode (by simpa using hdepth) (breaks_cons (by decide) _) goes_colon
  exact (isWhole_iff_goes hw htext).2
    (goes_word hw (breaks_cons (by decide) _) (goes_blank hcolon))

/-- A call that stands alone in its line. -/
theorem isWhole_call {f : String} (hf : isPlainWord f.toList = true) {depth : Nat}
    {codes : List String} (hcodes : ∀ code ∈ codes, Passes depth code)
    (hdepth : depth + 1 ≤ bracketLimit) :
    (ListingStep.line (Term.callCode f codes)).isWhole = true := by
  have hgoes : Goes [] ((Term.callCode f codes).toList ++ []) :=
    goes_call hf hcodes (by simpa using hdepth) goes_nil
  rw [List.append_nil] at hgoes
  rw [Term.callCode, String.toList_append, String.toList_append, String.toList_append,
    List.append_assoc, List.append_assoc] at hgoes
  refine (isWhole_iff_goes hf ?_).2 hgoes
  simp [Term.callCode]

/-- A call that stands alone in its line, and has no room for its first argument. -/
theorem isWhole_call_of_needs {f a : String} (hf : isPlainWord f.toList = true) {depth : Nat}
    (ha : Needs depth a) (hdepth : bracketLimit < depth + 1) (codes : List String) :
    (ListingStep.line (Term.callCode f (a :: codes))).isWhole = false := by
  have hstops : ¬Goes [] ((Term.callCode f (a :: codes)).toList ++ []) :=
    needs_call hf ha codes (Nat.zero_le _) (by simpa using hdepth)
  rw [List.append_nil] at hstops
  have htext : (Term.callCode f (a :: codes)).toList =
      f.toList ++ '(' :: ((commas (a :: codes)).toList ++ [')']) := by
    simp [Term.callCode]
  rw [htext] at hstops
  exact Bool.of_not_eq_true fun h => hstops ((isWhole_iff_goes hf htext).1 h)

namespace Stmt

theorem isWhole_emit {pieces : List Piece} (h : ∀ q ∈ pieces, q.IsPlain) :
    (ListingStep.line (emitCode pieces)).isWhole = true := by
  have hcodes : ∀ code ∈ pieces.map Piece.code, Passes 4 code := by
    intro code hcode
    obtain ⟨q, hq, rfl⟩ := List.mem_map.1 hcode
    exact (h q hq).passes
  have hlist : Passes 5 ("[" ++ commas (pieces.map Piece.code) ++ "]") := by
    intro stack rest hroom _ hrest
    have hinner : Goes ("]" :: stack) ((commas (pieces.map Piece.code)).toList ++ ']' :: rest) :=
      passes_commas hcodes (by simp only [List.length_cons]; omega) (breaks_cons (by decide) _)
        (goes_closeSquare hrest)
    have hgoes := goes_openSquare (by omega) hinner
    simpa using hgoes
  -- one piece is put out alone, several as a list
  rw [emitCode.eq_def]
  split
  · rename_i q
    exact isWhole_call (by decide) (List.forall_mem_singleton.2 (h q List.mem_cons_self).passes)
      (by decide)
  · exact isWhole_call (by decide) (List.forall_mem_singleton.2 hlist) (by decide)

theorem isWhole_bind {name : String} {value : Term} (hname : LoopNames.IsOfLoop name)
    (hvalue : value.IsPlain) :
    (ListingStep.line (name ++ " = " ++ value.code)).isWhole = true := by
  have hcode : Goes [] (value.code.toList ++ []) := hvalue.passes (by decide) breaks_nil goes_nil
  have hgoes := goes_word (isPlainWord_of_isOfLoop hname) (breaks_cons (by decide) _)
    (goes_blank (goes_equals hcode))
  exact (isWhole_iff_goes (isPlainWord_of_isOfLoop hname) (by simp)).2 hgoes

theorem isWhole_loop (n : Nat) :
    (ListingStep.line ("for " ++ (LoopNames.numbered loopLead n).index ++ ", " ++
      (LoopNames.numbered loopLead n).item ++ " in " ++
      Term.callCode counterName [(LoopNames.numbered loopLead n).items] ++ ":")).isWhole =
        true := by
  generalize hnames : LoopNames.numbered loopLead n = names
  have hname : ∀ id ∈ names.all, isPlainWord id.toList = true := by
    rw [← hnames]
    exact fun id hid => isPlainWord_of_isOfLoop ⟨n, hid⟩
  simp only [LoopNames.all, List.forall_mem_cons] at hname
  obtain ⟨hitem, hindex, hitems, -⟩ := hname
  -- from the colon to the front of the line, a word at a time
  have hcall : Passes 1 (Term.callCode counterName [names.items]) :=
    passes_call (by decide) (List.forall_mem_singleton.2 (passes_word hitems))
  have hcolon : Goes [] ((Term.callCode counterName [names.items]).toList ++ [':']) :=
    hcall (by decide) (breaks_cons (by decide) _) goes_colon
  have hin := goes_word (w := "in".toList) (by decide) (breaks_cons (by decide) _)
    (goes_blank hcolon)
  have hsecond := goes_word hitem (breaks_cons (by decide) _) (goes_blank hin)
  have hfirst := goes_word hindex (breaks_cons (by decide) _) (goes_comma (goes_blank hsecond))
  have hgoes := goes_word (w := "for".toList) (by decide) (breaks_cons (by decide) _)
    (goes_blank hfirst)
  exact (isWhole_iff_goes (w := "for".toList) (by decide) (by simp)).2 hgoes

mutual

/-- Every line of a statement of simple terms is whole. -/
theorem IsPlain.isWhole : (s : Stmt) → s.IsPlain → ∀ step ∈ s.steps, step.isWhole = true
  | .emit pieces, hs => by
      rw [steps]
      exact List.forall_mem_singleton.2 (isWhole_emit hs)
  | .branch condition body, hs => by
      -- the line that opens a block is whole if its expression passes; the lines inside are, by
      -- induction
      have hhead : (ListingStep.line ("if " ++ condition.code ++ ":")).isWhole = true :=
        isWhole_head (w := "if".toList) (by decide) hs.1.passes (by decide) (by simp)
      simp only [steps, List.cons_append, List.forall_mem_cons, List.forall_mem_append]
      exact ⟨hhead, rfl, isWhole_of_stmtsArePlain body hs.2, rfl, nofun⟩
  | .bind id value, hs => by
      rw [steps]
      exact List.forall_mem_singleton.2 (isWhole_bind hs.1 hs.2)
  | .guard items body, hs => by
      have hitems : Passes 0 items := passes_word (isPlainWord_of_isOfLoop hs.1)
      have hcall := passes_call (isPlainWord_helper .isArray) (List.forall_mem_singleton.2 hitems)
      have hhead :
          (ListingStep.line ("if " ++ Term.callCode Helper.isArray.name [items] ++ ":")).isWhole =
            true :=
        isWhole_head (w := "if".toList) (by decide) hcall (by decide) (by simp)
      simp only [steps, List.cons_append, List.forall_mem_cons, List.forall_mem_append]
      exact ⟨hhead, rfl, isWhole_of_stmtsArePlain body hs.2, rfl, nofun⟩
  | .loop names body, hs => by
      obtain ⟨⟨n, rfl⟩, hbody⟩ := hs
      simp only [steps, List.cons_append, List.forall_mem_cons, List.forall_mem_append]
      exact ⟨isWhole_loop n, rfl, isWhole_of_stmtsArePlain body hbody, rfl, nofun⟩
  | .pass, _ => by
      have hpass : (ListingStep.line "pass").isWhole = true :=
        (isWhole_iff_goes (w := "pass".toList) (by decide) (by simp)).2
          (goes_word (by decide) breaks_nil goes_nil)
      rw [steps]
      exact List.forall_mem_singleton.2 hpass

theorem isWhole_of_stmtsArePlain : (ss : List Stmt) → stmtsArePlain ss →
    ∀ step ∈ stepsOfAll ss, step.isWhole = true
  | [], _ => fun _ hstep => absurd hstep List.not_mem_nil
  | s :: ss, hss => by
      rw [stepsOfAll, List.forall_mem_append]
      exact ⟨IsPlain.isWhole s hss.1, isWhole_of_stmtsArePlain ss hss.2⟩

end

end Stmt

/-- The lines of a program are whole if those of its body are. -/
theorem Program.isWhole_steps {p : Program}
    (hbody : ∀ step ∈ Stmt.stepsOfAll p.body, step.isWhole = true) :
    p.steps.all ListingStep.isWhole = true := by
  rw [List.all_eq_true]
  -- all lines but those of the body are the same in every program
  simp only [steps, List.cons_append, List.forall_mem_cons, List.forall_mem_append]
  exact ⟨by decide +kernel, rfl, by decide +kernel, by decide +kernel, by decide +kernel, hbody,
    by decide +kernel, rfl, nofun⟩

/-- A program of simple terms can run if its blocks are not nested too deep. -/
theorem Program.isValid_iff {p : Program} (hp : stmtsArePlain p.body) :
    p.isValid = true ↔ Stmt.areValid 1 0 p.body = true := by
  rw [isValid, Bool.and_eq_true, isWhole_steps (Stmt.isWhole_of_stmtsArePlain p.body hp)]
  exact and_iff_left rfl

/-! ## Nesting -/

mutual

/-- Whether a node at a level of indentation and inside a number of loops is not nested too deep. -/
def Node.Fits (level loops : Nat) : Node → Prop
  | .text _ | .variable _ | .raw _ => level ≤ indentLimit
  | .cond _ children => level + 1 ≤ indentLimit ∧ nodesFit (level + 1) loops children
  | .each _ children =>
    loops < loopLimit ∧ level + 2 ≤ indentLimit ∧ nodesFit (level + 2) (loops + 1) children
  | .foreign _ => False

/-- `Node.Fits` for several nodes. -/
def nodesFit (level loops : Nat) : List Node → Prop
  | [] => True
  | n :: ns => n.Fits level loops ∧ nodesFit level loops ns

end

theorem nodesFit_append {level loops : Nat} {ms ns : List Node} :
    nodesFit level loops (ms ++ ns) ↔ nodesFit level loops ms ∧ nodesFit level loops ns := by
  induction ms with
  | nil => simp [nodesFit]
  | cons m ms ih => rw [List.cons_append, nodesFit, nodesFit, ih, and_assoc]

namespace Generation

variable {level loops : Nat}

theorem areValid_prepend {q : Piece} (hq : q.IsPlain) (ss : List Stmt) :
    Stmt.areValid level loops (prepend q ss) = true ↔
      level ≤ indentLimit ∧ Stmt.areValid level loops ss = true := by
  unfold prepend
  split
  · simp only [Stmt.areValid, Stmt.isValid, List.all_cons, hq.isValid, Bool.true_and,
      Bool.and_eq_true, decide_eq_true_eq]
    exact ⟨fun h => ⟨h.1.1, h⟩, And.right⟩
  · simp [Stmt.areValid, Stmt.isValid, hq.isValid]

/-- A block is indented even where it is empty. -/
theorem areValid_block (ss : List Stmt) :
    Stmt.areValid level loops (block ss) = true ↔
      level ≤ indentLimit ∧ Stmt.areValid level loops ss = true := by
  cases ss with
  | nil => simp [block, Stmt.areValid, Stmt.isValid]
  | cons s ss =>
      simp only [block, Stmt.areValid, Bool.and_eq_true, decide_eq_true_eq]
      exact ⟨fun h => ⟨h.1.1, h⟩, And.right⟩

mutual

/-- Simple nodes become statements that can run if they are not nested too deep. -/
theorem areValid_of_node {scope : Scope} {c c₁ : LoopCounter} {front : List Stmt → List Stmt} :
    (n : Node) → node scope n c = .ok (front, c₁) → ∀ (level loops : Nat) (ss : List Stmt),
      stmtsArePlain (front ss) → stmtsArePlain ss ∧
        (Stmt.areValid level loops (front ss) = true ↔
          n.Fits level loops ∧ Stmt.areValid level loops ss = true)
  | .text text, h => by
      intro level loops ss hplain
      rw [node, pure_eq_ok] at h
      cases h
      rw [stmtsArePlain_prepend] at hplain
      exact ⟨hplain.2, areValid_prepend hplain.1 ss⟩
  | .variable expression, h => by
      intro level loops ss hplain
      obtain ⟨t, ht, hr⟩ := node_variable_eq_ok.1 h
      cases hr
      rw [stmtsArePlain_prepend] at hplain
      exact ⟨hplain.2, areValid_prepend hplain.1 ss⟩
  | .raw expression, h => by
      intro level loops ss hplain
      obtain ⟨t, ht, hr⟩ := node_raw_eq_ok.1 h
      cases hr
      rw [stmtsArePlain_prepend] at hplain
      exact ⟨hplain.2, areValid_prepend hplain.1 ss⟩
  | .cond condition children, h => by
      intro level loops ss hplain
      obtain ⟨t, ht, body, c₃, hbody, hr⟩ := node_cond_eq_ok.1 h
      cases hr
      obtain ⟨⟨hterm, hblock⟩, hss⟩ := hplain
      rw [stmtsArePlain_block] at hblock
      refine ⟨hss, ?_⟩
      simp only [Stmt.areValid, Stmt.isValid, hterm.isValid, areValid_block,
        areValid_of_nodes children hbody (level + 1) loops hblock, Node.Fits, Bool.and_eq_true,
        decide_eq_true_eq, true_and]
      constructor
      · rintro ⟨⟨-, hfits⟩, hrest⟩
        exact ⟨hfits, hrest⟩
      · rintro ⟨hfits, hrest⟩
        exact ⟨⟨by omega, hfits⟩, hrest⟩
  | .each items children, h => by
      intro level loops ss hplain
      obtain ⟨t, ht, body, c₄, hbody, hr⟩ := node_each_eq_ok.1 h
      cases hr
      obtain ⟨⟨-, hterm⟩, ⟨-, ⟨-, hblock⟩, -⟩, hss⟩ := hplain
      rw [stmtsArePlain_block] at hblock
      refine ⟨hss, ?_⟩
      -- the check of the items is a block around the loop, so the children are two levels deeper
      simp only [Stmt.areValid, Stmt.isValid, hterm.isValid, areValid_block,
        areValid_of_nodes children hbody (level + 2) (loops + 1) hblock, Node.Fits,
        Bool.and_eq_true, decide_eq_true_eq]
      constructor
      · rintro ⟨-, ⟨-, ⟨-, hloops, hlevel, hfits⟩, -⟩, hrest⟩
        exact ⟨⟨hloops, hlevel, hfits⟩, hrest⟩
      · rintro ⟨⟨hloops, hlevel, hfits⟩, hrest⟩
        exact ⟨⟨by omega, trivial⟩, ⟨by omega, ⟨by omega, hloops, hlevel, hfits⟩, trivial⟩, hrest⟩
  | .foreign typeName, h => by
      rw [node] at h
      cases h

theorem areValid_of_nodes {scope : Scope} {c c₁ : LoopCounter} {ss : List Stmt} :
    (ns : List Node) → nodes scope ns c = .ok (ss, c₁) → ∀ (level loops : Nat),
      stmtsArePlain ss → (Stmt.areValid level loops ss = true ↔ nodesFit level loops ns)
  | [], h => by
      intro level loops _
      rw [nodes, pure_eq_ok] at h
      cases h
      simp [Stmt.areValid, nodesFit]
  | n :: ns, h => by
      intro level loops hplain
      obtain ⟨front, c₂, hn, rest, c₃, hns, hr⟩ := nodes_cons_eq_ok.1 h
      cases hr
      obtain ⟨hrest, hfront⟩ := areValid_of_node n hn level loops rest hplain
      rw [hfront, areValid_of_nodes ns hns level loops hrest, nodesFit]

end

end Generation

/-- **A program of simple terms can run if its nodes are not nested too deep**, and only then. -/
theorem Program.isValid_iff_nodesFit {p : Program} {t : Tree} (hp : ofTree t = .ok p)
    (hplain : stmtsArePlain p.body) : p.isValid = true ↔ nodesFit 1 0 t.children := by
  obtain ⟨c, hgen⟩ := ofTree_eq_ok_iff.1 hp
  rw [isValid_iff hplain]
  exact Generation.areValid_of_nodes t.children hgen 1 0 hplain

end Curly
