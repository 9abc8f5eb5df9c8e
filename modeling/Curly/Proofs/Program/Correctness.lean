import Curly.Proofs.Program.Simulation

/-!
The program of a tree says what the tree says.

The nodes of a tree are followed while the program is generated, and every kind of node keeps to
what it says by a lemma of `Curly.Proofs.Program.Simulation`. The one thing that a program can do
that its tree does not say is to read a variable at a place where the tree does not bind it.
-/

namespace Curly

variable {p : Program}

/-- A node means something, and its statements before others say this before the others. -/
def Stmt.IsFront (p : Program) (c c₁ : Nat) (meaning : Frame → Eval (List String))
    (front : List Stmt → List Stmt) : Prop :=
  ∀ ss, Stmt.Fits p (front ss) → Stmt.Fits p ss ∧
    ∀ rest, Stmt.Say p c₁ rest ss →
      Stmt.Say p c (fun L => do return (← meaning L) ++ (← rest L)) (front ss)

namespace Generation

theorem fits_of_prepend {q : Piece} {ss : List Stmt} (h : Stmt.Fits p (prepend q ss)) :
    q.assigned ⊆ p.assigned ∧ Stmt.Fits p ss := by
  obtain ⟨hbound, ha⟩ := h
  rw [assignedOfStmts_prepend, List.append_subset] at ha
  rw [boundOfStmts_prepend] at hbound
  exact ⟨ha.1, hbound, ha.2⟩

theorem assigned_escaped (t : Term) : (Piece.escaped t).assigned = t.expr.assigned := by
  simp [Piece.assigned, Piece.expr, Term.call, Expr.apply, Expr.assigned, assignedOfArguments]

theorem assigned_plain (t : Term) : (Piece.plain t).assigned = t.expr.assigned := by
  simp [Piece.assigned, Piece.expr, Term.call, Expr.apply, Expr.assigned, assignedOfArguments]

mutual

/-- The statements of a node say what the node says. -/
theorem isFront_of_node (hp : p.HasOwnNames) {scope : Scope} {c c₁ : LoopCounter}
    {front : List Stmt → List Stmt} :
    (n : Node) → node scope n c = .ok (front, c₁) → c.lead = loopLead →
    ∃ meaning, Meaning.node Program.hooks p.env scope n c = .ok (meaning, c₁) ∧
      c.opened ≤ c₁.opened ∧ Stmt.IsFront p c.opened c₁.opened meaning front
  | .text text, h, hc => by
      rw [node, pure_eq_ok] at h
      cases h
      refine ⟨_, rfl, Nat.le_refl _, fun ss hss => ⟨(fits_of_prepend hss).2, fun rest hrest => ?_⟩⟩
      exact hrest.text text
  | .variable expression, h, hc => by
      obtain ⟨t, ht, hr⟩ := node_variable_eq_ok.1 h
      cases hr
      have hpiece : Eval.expr Program.hooks p.env (Piece.escaped t).expr = _ :=
        Eval.expr_escaped hp (Term.isStarred_of_readAccess ht)
      refine ⟨_, Meaning.node_variable_eq_ok.2 ⟨t, ht, rfl⟩, Nat.le_refl _, fun ss hss => ?_⟩
      obtain ⟨ha, hss⟩ := fits_of_prepend hss
      rw [assigned_escaped] at ha
      exact ⟨hss, fun rest hrest => hrest.piece hpiece ha⟩
  | .raw expression, h, hc => by
      obtain ⟨t, ht, hr⟩ := node_raw_eq_ok.1 h
      cases hr
      have hpiece : Eval.expr Program.hooks p.env (Piece.plain t).expr = _ :=
        Eval.expr_plain hp (Term.isStarred_of_readAccess ht)
      refine ⟨_, Meaning.node_raw_eq_ok.2 ⟨t, ht, rfl⟩, Nat.le_refl _, fun ss hss => ?_⟩
      obtain ⟨ha, hss⟩ := fits_of_prepend hss
      rw [assigned_plain] at ha
      exact ⟨hss, fun rest hrest => hrest.piece hpiece ha⟩
  | .cond condition children, h, hc => by
      obtain ⟨t, ht, body, c₃, hbody, hr⟩ := node_cond_eq_ok.1 h
      cases hr
      obtain ⟨inner, hinner, hle, hsay⟩ := say_of_nodes hp children hbody hc
      refine ⟨_, Meaning.node_cond_eq_ok.2 ⟨t, ht, inner, _, hinner, rfl⟩, hle, fun ss hss => ?_⟩
      obtain ⟨hbound, ha⟩ := hss
      simp only [assignedOfStmts, Stmt.assigned, assignedOfStmts_block, List.append_subset] at ha
      simp only [boundOfStmts, Stmt.bound, boundOfStmts_block, List.append_subset] at hbound
      refine ⟨⟨hbound.2, ha.2⟩, fun rest hrest => ?_⟩
      exact Stmt.Say.branch ha.1.1 (hsay ⟨hbound.1, ha.1.2⟩) (hrest.mono hle)
  | .each items children, h, hc => by
      obtain ⟨t, ht, body, c₄, hbody, hr⟩ := node_each_eq_ok.1 h
      cases hr
      obtain ⟨inner, hinner, hle, hsay⟩ := say_of_nodes hp children hbody hc
      refine ⟨_, Meaning.node_each_eq_ok.2 ⟨t, ht, inner, _, hinner, rfl⟩, Nat.le_of_succ_le hle,
        fun ss hss => ?_⟩
      obtain ⟨hbound, ha⟩ := hss
      simp only [assignedOfStmts, Stmt.assigned, assignedOfStmts_block, List.append_nil,
        List.append_subset] at ha
      simp only [boundOfStmts, Stmt.bound, boundOfStmts_block, List.append_nil, List.cons_append,
        List.nil_append, List.append_subset, List.cons_subset] at hbound
      refine ⟨⟨hbound.2.2, ha.2.2⟩, fun rest hrest => ?_⟩
      -- the names of this loop are numbered one after all that are open
      rw [hc] at hbound ⊢
      have hbody := hsay ⟨hbound.2.1.2, ha.2.1⟩
      exact Stmt.Say.each ha.1 hbody (hrest.mono (Nat.le_of_succ_le hle)) hbound.2.1.1
  | .foreign typeName, h, _ => by
      rw [node] at h
      cases h

theorem say_of_nodes (hp : p.HasOwnNames) {scope : Scope} {c c₁ : LoopCounter} {ss : List Stmt} :
    (ns : List Node) → nodes scope ns c = .ok (ss, c₁) → c.lead = loopLead →
    ∃ meaning, Meaning.nodes Program.hooks p.env scope ns c = .ok (meaning, c₁) ∧
      c.opened ≤ c₁.opened ∧ (Stmt.Fits p ss → Stmt.Say p c.opened meaning ss)
  | [], h, hc => by
      rw [nodes, pure_eq_ok] at h
      cases h
      exact ⟨_, rfl, Nat.le_refl _, fun _ => Stmt.Say.nil hp⟩
  | n :: ns, h, hc => by
      obtain ⟨front, c₂, hn, rest, c₃, hns, hr⟩ := nodes_cons_eq_ok.1 h
      cases hr
      obtain ⟨first, hfirst, hle, hsay⟩ := isFront_of_node hp n hn hc
      have hc₂ := (isOfLoop_of_node n hn hc).1
      obtain ⟨others, hothers, hle', hsay'⟩ := say_of_nodes hp ns hns hc₂
      refine ⟨_, Meaning.nodes_cons_eq_ok.2 ⟨first, c₂, hfirst, others, _, hothers, rfl⟩,
        Nat.le_trans hle hle', fun hss => ?_⟩
      obtain ⟨hrest, hfront⟩ := hsay rest hss
      exact hfront others (hsay' hrest)

end

end Generation

/-! ## Whole trees -/

/-- Texts are joined in their order. -/
theorem Value.joinTexts_map_str (texts : List String) :
    joinTexts [] (texts.map .str) = .ok (String.join texts).toList := by
  -- the texts are numbered for the faults, of which there are none, so the induction is for any
  -- number
  have hmapM (f : Value × Nat → Except Fault (List Char))
      (hf : ∀ s j, f (.str s, j) = .ok s.toList) (i : Nat) :
      ((texts.map Value.str).zipIdx i).mapM f = .ok (texts.map String.toList) := by
    induction texts generalizing i with
    | nil => rfl
    | cons s texts ih =>
        rw [List.map_cons, List.zipIdx_cons, List.mapM_cons, ih, hf]
        rfl
  have hjoin (ss : List (List Char)) : (ss.intersperse []).flatten = ss.flatten := by
    induction ss with
    | nil => rfl
    | cons a ss ih =>
        cases ss with
        | nil => rfl
        | cons b ss =>
            rw [List.intersperse_cons_cons, List.flatten_cons, List.flatten_cons, ih]
            rfl
  rw [joinTexts, TextKind.joinAll, hmapM _ fun _ _ => rfl]
  show Except.ok (Text.joinWith [] (texts.map String.toList)) = _
  rw [Text.joinWith, hjoin, String.toList_join, List.flatMap_def]

namespace Program

/-- The output is the texts that have been put out, joined. -/
theorem result_inside {free : List String} {R : Machine} {F : Frame} (hR : R.IsApart free)
    (hF : F.lookup resultName = some .output) (texts : List String) :
    result hooks p.env (R.inside F (texts.reverse.map .str)) =
      .ok (String.join texts, R.inside F (texts.reverse.map .str)) := by
  -- the name of the result is bound to the output, and loading it gathers what has been put out
  have hload : Eval.load p.env resultName (R.inside F (texts.reverse.map .str)) =
      .ok (.list (texts.map .str), R.inside F (texts.reverse.map .str)) := by
    have hfind : p.env.binders.find? (·.names.contains resultName) =
        some ⟨mainFrame, p.varNames, true⟩ := by
      simp [env, Program.varNames, outputVariables]
    have hget (m : Machine) : (get : Eval Machine) m = .ok (m, m) := rfl
    have hgathered : Eval.gathered (R.inside F (texts.reverse.map .str)) =
        .ok (texts.map .str, R.inside F (texts.reverse.map .str)) := by
      rw [Eval.gathered, Eval.bind_of_ok (hget _)]
      simp [Machine.inside]
      rfl
    rw [Eval.load, hfind]
    dsimp only
    rw [Eval.bind_of_ok (hget _), Machine.valueOf_inside hR, hF]
    dsimp only
    rw [if_pos rfl, Eval.bind_of_ok hgathered]
    rfl
  rw [result, Eval.bind_of_ok hload]
  show (do
    let cs ← Eval.ofExcept (Value.joinTexts [] (texts.map .str))
    return String.ofList cs) (R.inside F (texts.reverse.map .str)) = _
  rw [Value.joinTexts_map_str]
  show Except.ok (String.ofList (String.join texts).toList, _) = _
  rw [String.ofList_toList]

/-- At the start of a program its frame holds the data and the output. -/
theorem fits_start (hp : p.HasOwnNames) (context : Value) :
    Frame.Fits p 0 ((contextName, context) :: outputVariables) [(contextName, context)] := by
  have hmem {id : String} {v : Value} {L : Frame} (h : L.lookup id = some v) : (id, v) ∈ L := by
    obtain ⟨l₁, l₂, hL, -⟩ := List.lookup_eq_some_iff.1 h
    rw [hL]
    exact List.mem_append_right l₁ List.mem_cons_self
  -- the names at the start end with no digit, so they are not those of a loop
  have hsettled {id : String} (hid : id ∈ [contextName, resultName, appendName, extendName]) :
      LoopNames.IsSettled 0 id := by
    intro n _
    apply LoopNames.not_mem_all_of_not_isDigit
    simp only [List.mem_cons, List.not_mem_nil, or_false] at hid
    obtain rfl | rfl | rfl | rfl := hid
    all_goals decide
  refine ⟨fun id v hv => ?_, fun id v hv => ?_, fun id v hv => ?_⟩
  · have hid := hmem hv
    rw [List.mem_singleton] at hid
    cases hid
    exact ⟨hsettled (by simp), hp.not_mem_assigned (by simp), rfl⟩
  · have hid := hmem hv
    simp only [outputVariables, List.mem_cons, List.not_mem_nil, or_false] at hid
    obtain h | h | h := hid
    all_goals cases h
    all_goals exact ⟨hsettled (by simp), hp.not_mem_assigned (by simp [outputVariables]), rfl⟩
  · have hid := List.mem_map_of_mem (f := Prod.fst) (hmem hv)
    exact List.mem_append_left _ hid

/-- A program does what its statements say, unless this asks for a variable that is not bound. -/
theorem run_of_say {meaning : Frame → Eval (List String)}
    (h : Stmt.Say p 0 meaning p.body) (context : Value) :
    p.IsLeak (Meaning.about meaning context) ∨ p.run context = Meaning.about meaning context := by
  have hstart : Meaning.start.IsApart p.assigned :=
    ⟨by decide, rfl, fun id it h => by simp [Meaning.start] at h⟩
  have hfits := fits_start h.own context
  have hends := h.execAll [] hstart hfits
  have hinside : Meaning.start.inside ((contextName, context) :: outputVariables) [] =
      start context := rfl
  have hrun : p.run context = (do
      let r ← (do execAll hooks p.env p.body; result hooks p.env : Eval String) (start context)
      return r.1) := rfl
  rw [hinside] at hends
  rw [hrun, Meaning.about]
  dsimp only [StateT.run]
  generalize hx : meaning [(contextName, context)] Meaning.start = r at hends ⊢
  generalize hy : execAll hooks p.env p.body (start context) = r' at hends
  -- a frame that fits runs to the same end as the meaning, or to a variable that is not bound
  cases hends with
  | missing hf hid => exact .inl ⟨_, _, rfl, hf, hid⟩
  | error f =>
      right
      rw [Eval.bind_of_error hy]
      rfl
  | ok hR hF =>
      rename_i texts R F
      right
      have houtput : F.lookup resultName = some .output := by
        obtain ⟨hs, ha, hv⟩ := hfits.output resultName .output rfl
        exact (hF.settled resultName hs ha).trans hv
      rw [List.append_nil] at hy
      rw [Eval.bind_of_ok hy, result_inside hR houtput]
      rfl

/-- The statements that are generated from a tree say what the tree says, if expressions assign none
of the names that the program relies on. -/
theorem say_of_apart {t : Tree} (hp : ofTree t = .ok p) (ha : ∀ id ∈ p.assigned, id ∉ p.reliedOn) :
    ∃ meaning c, Meaning.nodes hooks p.env [] t.children {} = .ok (meaning, c) ∧
      Stmt.Say p 0 meaning p.body := by
  cases hgen : Generation.nodes [] t.children {} with
  | error e =>
      rw [ofTree, StateT.run, hgen] at hp
      cases hp
  | ok r =>
      obtain ⟨ss, c⟩ := r
      rw [ofTree, StateT.run, hgen] at hp
      cases hp
      -- Only names of loops are bound by what is generated; the rest is the assumption.
      have hown : HasOwnNames ⟨ss⟩ := ⟨(Generation.isOfLoop_of_nodes t.children hgen rfl).2, ha⟩
      obtain ⟨meaning, hmeaning, -, hsay⟩ := Generation.say_of_nodes hown t.children hgen rfl
      exact ⟨meaning, c, hmeaning, hsay ⟨List.Subset.refl _, List.Subset.refl _⟩⟩

/-- The statements that are generated from a tree say what the tree says, if expressions assign
nothing. -/
theorem say_of_ofTree {t : Tree} (hp : ofTree t = .ok p) (ha : p.assigned = []) :
    ∃ meaning c, Meaning.nodes hooks p.env [] t.children {} = .ok (meaning, c) ∧
      Stmt.Say p 0 meaning p.body := by
  apply say_of_apart hp
  rw [ha]
  exact fun id hid => absurd hid List.not_mem_nil

end Program

end Curly
