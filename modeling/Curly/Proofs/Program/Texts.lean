import Curly.Proofs.Program.Simple
import Curly.Proofs.Term.Outcome
import Curly.Proofs.Value.Data

/-!
What simple nodes say about data, told without a machine and without the names that loops get. A
loop says of every item what its nodes say. The programs of simple templates do the same on their
machines: at every place the data and the item at hand stand under names that the generated code
knows, and this is all that simple terms look at.
-/

namespace Curly

mutual

/-- What a node says about data, and about the item at hand. -/
def Node.texts (inLoop : Bool) (data item : Value) : Node → Except Fault (List String)
  | .text text => .ok [text]
  | .variable expression => do
    let v ← Term.valueOf Term.readAccess inLoop expression.toList data item
    return [← v.escaped]
  | .raw expression => do
    let v ← Term.valueOf Term.readAccess inLoop expression.toList data item
    return [← v.stringify]
  | .cond condition children => do
    let v ← Term.valueOf Term.readCondition inLoop condition.toList data item
    if v.isTrue then textsOfNodes inLoop data item children else return []
  | .each items children => do
    let v ← Term.valueOf Term.readAccess inLoop items.toList data item
    match v.items? with
    | none => return []
    | some vs =>
      let rounds ← vs.mapM fun w => textsOfNodes true data w children
      return rounds.flatten
  | .foreign _ => return []

/-- What nodes say, one after the other. -/
def textsOfNodes (inLoop : Bool) (data item : Value) : List Node → Except Fault (List String)
  | [] => return []
  | n :: ns => do return (← n.texts inLoop data item) ++ (← textsOfNodes inLoop data item ns)

end

theorem textsOfNodes_append {inLoop : Bool} {data item : Value} (ms ns : List Node) :
    textsOfNodes inLoop data item (ms ++ ns) = (do
      let front ← textsOfNodes inLoop data item ms
      let back ← textsOfNodes inLoop data item ns
      return front ++ back) := by
  induction ms with
  | nil =>
      show textsOfNodes inLoop data item ns =
        (textsOfNodes inLoop data item ns >>= fun back => pure back)
      rw [bind_pure]
  | cons m ms ih =>
      rw [List.cons_append, textsOfNodes, textsOfNodes, ih]
      simp only [bind_assoc, pure_bind, List.append_assoc]

/-- What a tree of simple nodes says about data. -/
def Tree.text (t : Tree) (context : Value) : Except Fault String :=
  String.join <$> textsOfNodes false context context t.children

/-! ## Simple nodes on a machine -/

/-- Whether the data and the item at hand stand under their names among the variables of a place. -/
def Frame.Shows (L : Frame) (scope : Scope) (data item : Value) : Prop :=
  ∀ b ∈ [contextName, Term.thisName scope], L.lookup b = some (Term.boundTo data item b)

/-- Whether the names of the data and of the item at hand are variables of a program. -/
def Scope.IsKnown (p : Program) (scope : Scope) : Prop :=
  ∀ b ∈ [contextName, Term.thisName scope], b ∈ p.varNames ∧ b ≠ resultName

namespace Scope

variable {p : Program} {scope : Scope}

theorem isKnown_nil (p : Program) : IsKnown p [] := by
  have hctx : contextName ∈ p.varNames := List.mem_cons_self
  intro b hb
  have hb : b = contextName := by simpa [Term.thisName] using hb
  subst hb
  exact ⟨hctx, by decide⟩

theorem item_ne_of_not_isDigit {id : String} (hid : id.toList.all (!·.isDigit) = true) (n : Nat) :
    (LoopNames.numbered loopLead n).item ≠ id := by
  intro heq
  have hno : id ∉ (LoopNames.numbered loopLead n).all :=
    LoopNames.not_mem_all_of_not_isDigit hid n
  rw [← heq] at hno
  simp [LoopNames.all] at hno

/-- In a loop the names are known if the program binds that of the item. -/
theorem IsKnown.cons (h : scope.IsKnown p) {n : Nat}
    (hn : (LoopNames.numbered loopLead n).item ∈ p.varNames) :
    IsKnown p (.numbered loopLead n :: scope) := by
  intro b hb
  simp only [List.mem_cons, List.not_mem_nil, or_false] at hb
  obtain rfl | rfl := hb
  · exact h _ List.mem_cons_self
  · exact ⟨hn, item_ne_of_not_isDigit (by decide) n⟩

end Scope

/-- In a round of a loop the data and the item of the round stand under their names. -/
theorem Frame.Shows.cons {L : Frame} {scope : Scope} {data item : Value}
    (h : L.Shows scope data item) (n : Nat) (items : Value) (i : Nat) (w : Value) :
    Frame.Shows ((LoopNames.numbered loopLead n).bindings items i w ++ L)
      (.numbered loopLead n :: scope) data w := by
  intro b hb
  simp only [List.mem_cons, List.not_mem_nil, or_false] at hb
  obtain rfl | rfl := hb
  · -- The data: no name of a loop is theirs, so the bindings in front do not hide them.
    have hctx := h contextName List.mem_cons_self
    have hne : contextName ∉ (LoopNames.numbered loopLead n).all :=
      LoopNames.not_mem_all_of_not_isDigit (by decide) n
    simp only [LoopNames.all, List.mem_cons, List.not_mem_nil, or_false, not_or] at hne
    obtain ⟨hitem, hindex, hitems⟩ := hne
    simp only [LoopNames.bindings, List.cons_append, List.nil_append, List.lookup_cons,
      beq_false_of_ne hitem, beq_false_of_ne hindex, beq_false_of_ne hitems]
    exact hctx
  · rw [Term.thisName, Term.boundTo, if_neg (Scope.item_ne_of_not_isDigit (by decide) n)]
    simp [LoopNames.bindings]

namespace Eval

variable {p : Program} {scope : Scope} {data item : Value} {L : Frame} {t : Term}

/-- A simple term has its value at every place where the data and the item at hand stand under their
names. -/
theorem gives_value (hp : p.HasOwnNames) (ha : p.assigned = []) (hs : scope.IsKnown p)
    (hL : L.Shows scope data item) (ht : t.Plain [contextName, Term.thisName scope]) :
    Gives (Meaning.value Program.hooks p.env L t.expr) (t.valueAt data item) := by
  intro m hm
  -- the frame of the place is put in first, and the term is evaluated on what this leaves
  generalize hm₁ : ({ m with frames := m.frames.setIfInBounds Program.mainFrame L } : Machine) = m₁
  have hsize : m₁.HasFrame := by
    rw [← hm₁, Machine.HasFrame, Array.size_setIfInBounds]
    exact hm
  have hload : ∀ b ∈ [contextName, Term.thisName scope],
      load p.env b m₁ = .ok (Term.boundTo data item b, m₁) := by
    intro b hb
    obtain ⟨hvar, hout⟩ := hs b hb
    refine load_of_mem_varNames hvar ?_ hout
    rw [Machine.valueOf, ← hm₁]
    have hmain : Program.mainFrame < m.frames.size := hm
    simp only [Array.getElem?_setIfInBounds_self_of_lt hmain, Option.bind_some]
    exact hL b hb
  refine ⟨m₁, hsize, ?_⟩
  have hset : (modify fun m => { m with frames := m.frames.setIfInBounds Program.mainFrame L } :
      Eval Unit) m = .ok ((), m₁) := by
    rw [← hm₁]
    rfl
  rw [Meaning.value, bind_of_ok hset]
  exact reads_term hp ha hload ht

variable {read : Scope → List Char → Except ExpressionFailure Term} {P : Term → Prop}
  {inLoop : Bool} {text : List Char}

/-- What is read as a simple term has the value that is told without the scope. -/
theorem gives_valueOf (hp : p.HasOwnNames) (ha : p.assigned = []) (hread : Term.IsReader read)
    (hP : ∀ {t : Term}, P t → t.isSimple = true) (hs : scope.IsOf inLoop) (hknown : scope.IsKnown p)
    (hL : L.Shows scope data item) (h : Term.IsReadAs read P inLoop text)
    (ht : read scope text = .ok t) :
    Gives (Meaning.value Program.hooks p.env L t.expr)
      (Term.valueOf read inLoop text data item) := by
  have hsimple := h.isSimple hread hP hs ht
  rw [Term.valueOf_of_ok hread hs ht hsimple]
  exact gives_value hp ha hknown hL (hread.plain ht hsimple)

end Eval

namespace Generation

variable {p : Program}

/-- A round of a loop says the same whatever its number. -/
theorem mapM_zipIdx (g : Value → Except Fault (List String)) (vs : List Value) :
    (vs.zipIdx.mapM fun x => g x.1) = vs.mapM g := by
  conv_rhs => rw [← List.zipIdx_map_fst 0 vs, List.mapM_map]
  rfl

mutual

/-- Simple nodes mean what they say. -/
theorem gives_of_node (hp : p.HasOwnNames) (ha : p.assigned = []) {P : Term → Prop}
    (hP : ∀ {t : Term}, P t → t.isSimple = true) {scope : Scope} {inLoop : Bool}
    {c c₁ : LoopCounter}
    {front : List Stmt → List Stmt} :
    (n : Node) → node scope n c = .ok (front, c₁) → c.lead = loopLead → scope.IsOf inLoop →
    n.Reads P inLoop →
    ∃ meaning, Meaning.node Program.hooks p.env scope n c = .ok (meaning, c₁) ∧
      ∀ ss, boundOfStmts (front ss) ⊆ p.varNames → boundOfStmts ss ⊆ p.varNames ∧
        (scope.IsKnown p → ∀ L data item, Frame.Shows L scope data item →
          Eval.Gives (meaning L) (n.texts inLoop data item))
  | .text text, h, _, _, _ => by
      rw [node, pure_eq_ok] at h
      cases h
      refine ⟨_, rfl, fun ss hss => ⟨?_, fun _ L data item _ => .pure [text]⟩⟩
      rwa [boundOfStmts_prepend] at hss
  | .variable expression, h, _, hs, hn => by
      obtain ⟨t, ht, hr⟩ := node_variable_eq_ok.1 h
      cases hr
      refine ⟨_, Meaning.node_variable_eq_ok.2 ⟨t, ht, rfl⟩, fun ss hss => ⟨?_, ?_⟩⟩
      · rwa [boundOfStmts_prepend] at hss
      · intro hknown L data item hL
        have hvalue := Eval.gives_valueOf hp ha Term.isReader_readAccess hP hs hknown hL hn ht
        exact hvalue.bind fun v => (Eval.Gives.ofExcept v.escaped).bind fun s => .pure [s]
  | .raw expression, h, _, hs, hn => by
      obtain ⟨t, ht, hr⟩ := node_raw_eq_ok.1 h
      cases hr
      refine ⟨_, Meaning.node_raw_eq_ok.2 ⟨t, ht, rfl⟩, fun ss hss => ⟨?_, ?_⟩⟩
      · rwa [boundOfStmts_prepend] at hss
      · intro hknown L data item hL
        have hvalue := Eval.gives_valueOf hp ha Term.isReader_readAccess hP hs hknown hL hn ht
        exact hvalue.bind fun v => (Eval.Gives.ofExcept v.stringify).bind fun s => .pure [s]
  | .cond condition children, h, hc, hs, hn => by
      obtain ⟨t, ht, body, c₃, hbody, hr⟩ := node_cond_eq_ok.1 h
      cases hr
      obtain ⟨inner, hinner, hgives⟩ := gives_of_nodes hp ha hP children hbody hc hs hn.2
      refine ⟨_, Meaning.node_cond_eq_ok.2 ⟨t, ht, inner, _, hinner, rfl⟩, fun ss hss => ?_⟩
      simp only [boundOfStmts, Stmt.bound, boundOfStmts_block, List.append_subset] at hss
      refine ⟨hss.2, fun hknown L data item hL => ?_⟩
      have hvalue := Eval.gives_valueOf hp ha Term.isReader_readCondition hP hs hknown hL hn.1 ht
      refine hvalue.bind fun v => ?_
      cases v.isTrue with
      | true => exact hgives hss.1 hknown L data item hL
      | false => exact .pure []
  | .each items children, h, hc, hs, hn => by
      obtain ⟨t, ht, body, c₄, hbody, hr⟩ := node_each_eq_ok.1 h
      cases hr
      have hin : Scope.IsOf true (.numbered c.lead (c.opened + 1) :: scope) := by
        rw [hc]
        exact hs.cons _
      obtain ⟨inner, hinner, hgives⟩ := gives_of_nodes hp ha hP children hbody hc hin hn.2
      refine ⟨_, Meaning.node_each_eq_ok.2 ⟨t, ht, inner, _, hinner, rfl⟩, fun ss hss => ?_⟩
      simp only [boundOfStmts, Stmt.bound, boundOfStmts_block, List.append_nil, List.cons_append,
        List.nil_append, List.append_subset, List.cons_subset] at hss
      obtain ⟨-, ⟨hnames, hbound⟩, hrest⟩ := hss
      refine ⟨hrest, fun hknown L data item hL => ?_⟩
      have hvalue := Eval.gives_valueOf hp ha Term.isReader_readAccess hP hs hknown hL hn.1 ht
      refine hvalue.bind fun v => ?_
      cases v.items? with
      | none => exact .pure []
      | some vs =>
          -- each round has a frame of its own, in which the names of the loop stand for its item
          rw [hc] at hnames hgives ⊢
          have hitem : (LoopNames.numbered loopLead (c.opened + 1)).item ∈ p.varNames :=
            hnames (by simp [LoopNames.all])
          have hrounds := Eval.Gives.mapM (fun x : Value × Nat =>
            hgives hbound (hknown.cons hitem) _ data x.1 (hL.cons (c.opened + 1) v x.2 x.1))
            vs.zipIdx
          rw [mapM_zipIdx fun w => textsOfNodes true data w children] at hrounds
          exact hrounds.bind fun rounds => .pure rounds.flatten
  | .foreign typeName, h, _, _, _ => by
      rw [node] at h
      cases h

theorem gives_of_nodes (hp : p.HasOwnNames) (ha : p.assigned = []) {P : Term → Prop}
    (hP : ∀ {t : Term}, P t → t.isSimple = true) {scope : Scope} {inLoop : Bool}
    {c c₁ : LoopCounter}
    {ss : List Stmt} :
    (ns : List Node) → nodes scope ns c = .ok (ss, c₁) → c.lead = loopLead → scope.IsOf inLoop →
    nodesRead P inLoop ns →
    ∃ meaning, Meaning.nodes Program.hooks p.env scope ns c = .ok (meaning, c₁) ∧
      (boundOfStmts ss ⊆ p.varNames → scope.IsKnown p → ∀ L data item,
        Frame.Shows L scope data item → Eval.Gives (meaning L) (textsOfNodes inLoop data item ns))
  | [], h, _, _, _ => by
      rw [nodes, pure_eq_ok] at h
      cases h
      exact ⟨_, rfl, fun _ _ L data item _ => .pure []⟩
  | n :: ns, h, hc, hs, hns => by
      obtain ⟨front, c₂, hn, rest, c₃, hrest, hr⟩ := nodes_cons_eq_ok.1 h
      cases hr
      obtain ⟨first, hfirst, hgives⟩ := gives_of_node hp ha hP n hn hc hs hns.1
      have hc₂ := (isOfLoop_of_node n hn hc).1
      obtain ⟨others, hothers, hgives'⟩ := gives_of_nodes hp ha hP ns hrest hc₂ hs hns.2
      refine ⟨_, Meaning.nodes_cons_eq_ok.2 ⟨first, c₂, hfirst, others, _, hothers, rfl⟩,
        fun hss hknown L data item hL => ?_⟩
      -- the node comes in front of statements that are there already, so its names are bound by the
      -- whole, and theirs are what is left of these
      obtain ⟨hbound, hfirst⟩ := hgives rest hss
      exact (hfirst hknown L data item hL).bind fun texts =>
        (hgives' hbound hknown L data item hL).bind fun others => .pure (texts ++ others)

end

end Generation

end Curly
