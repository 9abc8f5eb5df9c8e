import Curly.Proofs.Program.Meaning
import Curly.Proofs.Scope

/-!
What generation makes: loops get their numbers in order, and the variables of the statements are
the names of these loops and what expressions assign.
-/

namespace Curly

/-! ## The statements of a node -/

@[simp]
theorem assignedOfStmts_prepend (q : Piece) (ss : List Stmt) :
    assignedOfStmts (Generation.prepend q ss) = q.assigned ++ assignedOfStmts ss := by
  unfold Generation.prepend
  split
  · simp [assignedOfStmts, Stmt.assigned]
  · simp [assignedOfStmts, Stmt.assigned]

@[simp]
theorem assignedOfStmts_block (ss : List Stmt) :
    assignedOfStmts (Generation.block ss) = assignedOfStmts ss := by
  unfold Generation.block
  split
  · rfl
  · rfl

@[simp]
theorem boundOfStmts_prepend (q : Piece) (ss : List Stmt) :
    boundOfStmts (Generation.prepend q ss) = boundOfStmts ss := by
  unfold Generation.prepend
  split
  · simp [boundOfStmts, Stmt.bound]
  · simp [boundOfStmts, Stmt.bound]

@[simp]
theorem boundOfStmts_block (ss : List Stmt) :
    boundOfStmts (Generation.block ss) = boundOfStmts ss := by
  unfold Generation.block
  split
  · rfl
  · rfl

mutual

/-- The variables that a statement sets are those of loops and those that expressions assign. -/
theorem Stmt.mem_varNames {id : String} : (s : Stmt) →
    (id ∈ s.varNames ↔ id ∈ s.bound ∨ id ∈ s.assigned)
  | .emit pieces => by simp [Stmt.varNames, Stmt.bound, Stmt.assigned]
  | .branch condition body => by
      simp only [Stmt.varNames, Stmt.bound, Stmt.assigned, List.mem_append, mem_varNamesOfAll body]
      exact or_left_comm
  | .bind name value => by simp [Stmt.varNames, Stmt.bound, Stmt.assigned]
  | .guard items body => mem_varNamesOfAll body
  | .loop names body => by
      simp only [Stmt.varNames, Stmt.bound, Stmt.assigned, List.mem_append, mem_varNamesOfAll body]
      exact or_assoc.symm
  | .pass => by simp [Stmt.varNames, Stmt.bound, Stmt.assigned]

/-- `Stmt.mem_varNames` of several statements. -/
theorem mem_varNamesOfAll {id : String} : (ss : List Stmt) →
    (id ∈ varNamesOfAll ss ↔ id ∈ boundOfStmts ss ∨ id ∈ assignedOfStmts ss)
  | [] => by simp [varNamesOfAll, boundOfStmts, assignedOfStmts]
  | s :: ss => by
      simp only [varNamesOfAll, boundOfStmts, assignedOfStmts, List.mem_append,
        Stmt.mem_varNames s, mem_varNamesOfAll ss]
      exact or_or_or_comm

end

/-- Statements that bind no names but those that a program binds, and assign no names but those that
it assigns. -/
structure Stmt.Fits (p : Program) (ss : List Stmt) : Prop where
  bound : boundOfStmts ss ⊆ boundOfStmts p.body
  assigned : assignedOfStmts ss ⊆ p.assigned

/-- A name of some loop. -/
def LoopNames.IsOfLoop (id : String) : Prop := ∃ n, id ∈ (LoopNames.numbered loopLead n).all

namespace Generation

/-- A sequence of generations succeeds if both parts do. -/
theorem bind_eq_ok {x : Generation α} {k : α → Generation β} {c : LoopCounter}
    {r : β × LoopCounter} :
    (x >>= k) c = .ok r ↔ ∃ a c₁, x c = .ok (a, c₁) ∧ k a c₁ = .ok r := by
  cases hx : x c with
  | error f => simp [Bind.bind, StateT.bind, Except.bind, hx]
  | ok r' =>
      obtain ⟨a, c₁⟩ := r'
      simp [Bind.bind, StateT.bind, Except.bind, hx]

/-- A term is read without a look at the counter. -/
theorem lift_eq_ok {x : Except ExpressionFailure α} {c : LoopCounter} {r : α × LoopCounter} :
    (liftM x : Generation α) c = .ok r ↔ ∃ a, x = .ok a ∧ r = (a, c) := by
  cases x with
  | error f => simp [liftM, monadLift, MonadLift.monadLift, StateT.lift, Bind.bind, Except.bind]
  | ok a =>
      simp [liftM, monadLift, MonadLift.monadLift, StateT.lift, Bind.bind, Except.bind, Pure.pure,
        Except.pure, eq_comm]

/-- A text is read before what is generated from it. -/
theorem lift_bind {α β : Type} (x : Except ExpressionFailure α) (k : α → Generation β)
    (c : LoopCounter) : ((liftM x : Generation α) >>= k) c = x.bind fun a => k a c := by
  cases x <;> rfl

/-- Generation after a term was read. -/
theorem lift_bind_eq_ok {x : Except ExpressionFailure α} {k : α → Generation β} {c : LoopCounter}
    {r : β × LoopCounter} :
    ((liftM x : Generation α) >>= k) c = .ok r ↔ ∃ a, x = .ok a ∧ k a c = .ok r := by
  rw [bind_eq_ok]
  constructor
  · rintro ⟨a, c₁, h, hk⟩
    obtain ⟨_, ha, hr⟩ := lift_eq_ok.1 h
    cases hr
    exact ⟨a, ha, hk⟩
  · rintro ⟨a, ha, hk⟩
    exact ⟨a, c, lift_eq_ok.2 ⟨a, ha, rfl⟩, hk⟩

theorem pure_eq_ok {a : α} {c : LoopCounter} {r : α × LoopCounter} :
    (pure a : Generation α) c = .ok r ↔ r = (a, c) := by
  show Except.ok (a, c) = Except.ok r ↔ r = (a, c)
  rw [Except.ok.injEq, eq_comm]

/-- The next loop gets the next number. -/
theorem nextLoop_bind (k : LoopNames → Generation β) (c : LoopCounter) :
    (nextLoop >>= k) c =
      k (.numbered c.lead (c.opened + 1)) { c with opened := c.opened + 1 } := rfl

/-! ## What is generated from a node

One lemma for each kind of node says all that generation can do there.
-/

section

variable {scope : Scope} {c : LoopCounter} {r : (List Stmt → List Stmt) × LoopCounter}

theorem node_variable_eq_ok {expression : String} :
    node scope (.variable expression) c = .ok r ↔
      ∃ t, Term.readAccess scope expression.toList = .ok t ∧ r = (prepend (.escaped t), c) := by
  rw [node, lift_bind_eq_ok]
  simp only [pure_eq_ok]

theorem node_raw_eq_ok {expression : String} :
    node scope (.raw expression) c = .ok r ↔
      ∃ t, Term.readAccess scope expression.toList = .ok t ∧ r = (prepend (.plain t), c) := by
  rw [node, lift_bind_eq_ok]
  simp only [pure_eq_ok]

theorem node_cond_eq_ok {condition : String} {children : List Node} :
    node scope (.cond condition children) c = .ok r ↔
      ∃ t, Term.readCondition scope condition.toList = .ok t ∧
        ∃ body c₁, nodes scope children c = .ok (body, c₁) ∧
          r = ((.branch t (block body) :: ·), c₁) := by
  rw [node, lift_bind_eq_ok]
  simp only [bind_eq_ok, pure_eq_ok]

/-- The names of a loop are the next ones, and they are seen inside it. -/
theorem node_each_eq_ok {items : String} {children : List Node} :
    node scope (.each items children) c = .ok r ↔
      ∃ t, Term.readAccess scope items.toList = .ok t ∧
        ∃ body c₁, nodes (.numbered c.lead (c.opened + 1) :: scope) children
          { c with opened := c.opened + 1 } = .ok (body, c₁) ∧
        r = (fun rest => .bind (LoopNames.numbered c.lead (c.opened + 1)).items t ::
          .guard (LoopNames.numbered c.lead (c.opened + 1)).items
            [.loop (.numbered c.lead (c.opened + 1)) (block body)] :: rest, c₁) := by
  rw [node, lift_bind_eq_ok]
  simp only [nextLoop_bind, bind_eq_ok, pure_eq_ok]

theorem nodes_cons_eq_ok {n : Node} {ns : List Node} {r : List Stmt × LoopCounter} :
    nodes scope (n :: ns) c = .ok r ↔
      ∃ front c₁, node scope n c = .ok (front, c₁) ∧
        ∃ rest c₂, nodes scope ns c₁ = .ok (rest, c₂) ∧ r = (front rest, c₂) := by
  simp only [nodes, bind_eq_ok, pure_eq_ok]

end

end Generation

namespace Meaning

open Generation

variable {h : Hooks} {env : Env} {scope : Scope} {c : LoopCounter}
  {r : (Frame → Eval (List String)) × LoopCounter}

theorem node_variable_eq_ok {expression : String} :
    node h env scope (.variable expression) c = .ok r ↔
      ∃ t, Term.readAccess scope expression.toList = .ok t ∧
        r = (piece h env Value.escaped t, c) := by
  rw [node, lift_bind_eq_ok]
  simp only [pure_eq_ok]

theorem node_raw_eq_ok {expression : String} :
    node h env scope (.raw expression) c = .ok r ↔
      ∃ t, Term.readAccess scope expression.toList = .ok t ∧
        r = (piece h env Value.stringify t, c) := by
  rw [node, lift_bind_eq_ok]
  simp only [pure_eq_ok]

theorem node_cond_eq_ok {condition : String} {children : List Node} :
    node h env scope (.cond condition children) c = .ok r ↔
      ∃ t, Term.readCondition scope condition.toList = .ok t ∧
        ∃ body c₁, nodes h env scope children c = .ok (body, c₁) ∧
          r = (fun vars => do
            if (← value h env vars t.expr).isTrue then body vars else return [], c₁) := by
  rw [node, lift_bind_eq_ok]
  simp only [bind_eq_ok, pure_eq_ok]

theorem node_each_eq_ok {items : String} {children : List Node} :
    node h env scope (.each items children) c = .ok r ↔
      ∃ t, Term.readAccess scope items.toList = .ok t ∧
        ∃ body c₁, nodes h env (.numbered c.lead (c.opened + 1) :: scope) children
          { c with opened := c.opened + 1 } = .ok (body, c₁) ∧
        r = (fun vars => do
          let v ← value h env vars t.expr
          match v.items? with
          | none => return []
          | some vs =>
            let rounds ← vs.zipIdx.mapM fun (w, i) =>
              body ((LoopNames.numbered c.lead (c.opened + 1)).bindings v i w ++ vars)
            return rounds.flatten, c₁) := by
  rw [node, lift_bind_eq_ok]
  refine exists_congr fun t => and_congr_right fun _ => ?_
  rw [nextLoop_bind, bind_eq_ok]
  exact exists_congr fun body => exists_congr fun c₁ => and_congr_right fun _ => pure_eq_ok

theorem nodes_cons_eq_ok {n : Node} {ns : List Node} :
    nodes h env scope (n :: ns) c = .ok r ↔
      ∃ first c₁, node h env scope n c = .ok (first, c₁) ∧
        ∃ rest c₂, nodes h env scope ns c₁ = .ok (rest, c₂) ∧
          r = (fun vars => do return (← first vars) ++ (← rest vars), c₂) := by
  simp only [nodes, bind_eq_ok, pure_eq_ok]

end Meaning

namespace Generation

/-! ## The names that are generated -/

theorem isOfLoop_of_prepend (q : Piece) (ss : List Stmt) :
    ∀ id ∈ boundOfStmts (prepend q ss), id ∈ boundOfStmts ss ∨ LoopNames.IsOfLoop id := by
  rw [boundOfStmts_prepend]
  exact fun id hid => .inl hid

mutual

/-- The names that the statements of a node bind beyond those of what follows are names of loops. -/
theorem isOfLoop_of_node {scope : Scope} {c c₁ : LoopCounter} {front : List Stmt → List Stmt} :
    (n : Node) → node scope n c = .ok (front, c₁) → c.lead = loopLead →
    c₁.lead = loopLead ∧ ∀ ss, ∀ id ∈ boundOfStmts (front ss),
      id ∈ boundOfStmts ss ∨ LoopNames.IsOfLoop id
  | .text text, h, hc => by
      rw [node, pure_eq_ok] at h
      cases h
      exact ⟨hc, isOfLoop_of_prepend _⟩
  | .variable expression, h, hc => by
      obtain ⟨t, -, hr⟩ := node_variable_eq_ok.1 h
      cases hr
      exact ⟨hc, isOfLoop_of_prepend _⟩
  | .raw expression, h, hc => by
      obtain ⟨t, -, hr⟩ := node_raw_eq_ok.1 h
      cases hr
      exact ⟨hc, isOfLoop_of_prepend _⟩
  | .cond condition children, h, hc => by
      obtain ⟨t, -, body, c₃, hbody, hr⟩ := node_cond_eq_ok.1 h
      cases hr
      obtain ⟨hc₃, hids⟩ := isOfLoop_of_nodes children hbody hc
      refine ⟨hc₃, fun ss id hid => ?_⟩
      simp only [boundOfStmts, Stmt.bound, boundOfStmts_block, List.mem_append] at hid
      exact hid.symm.imp_right (hids id)
  | .each items children, h, hc => by
      obtain ⟨t, -, body, c₄, hbody, hr⟩ := node_each_eq_ok.1 h
      cases hr
      obtain ⟨hc₄, hids⟩ := isOfLoop_of_nodes children hbody hc
      refine ⟨hc₄, fun ss id hid => ?_⟩
      -- the name of the items is bound by the assignment before the loop, the other two by the loop
      have hname : id ∈ (LoopNames.numbered c.lead (c.opened + 1)).all → LoopNames.IsOfLoop id :=
        fun hid => ⟨c.opened + 1, hc ▸ hid⟩
      simp only [boundOfStmts, Stmt.bound, boundOfStmts_block, List.append_nil, List.cons_append,
        List.nil_append, List.mem_append, List.mem_cons] at hid
      obtain rfl | (hid | hid) | hid := hid
      · exact .inr (hname (by simp [LoopNames.all]))
      · exact .inr (hname hid)
      · exact .inr (hids id hid)
      · exact .inl hid
  | .foreign typeName, h, _ => by
      rw [node] at h
      cases h

theorem isOfLoop_of_nodes {scope : Scope} {c c₁ : LoopCounter} {ss : List Stmt} :
    (ns : List Node) → nodes scope ns c = .ok (ss, c₁) → c.lead = loopLead →
    c₁.lead = loopLead ∧ ∀ id ∈ boundOfStmts ss, LoopNames.IsOfLoop id
  | [], h, hc => by
      rw [nodes, pure_eq_ok] at h
      cases h
      exact ⟨hc, fun id hid => absurd hid List.not_mem_nil⟩
  | n :: ns, h, hc => by
      obtain ⟨front, c₂, hn, rest, c₃, hns, hr⟩ := nodes_cons_eq_ok.1 h
      cases hr
      obtain ⟨hc₂, hfront⟩ := isOfLoop_of_node n hn hc
      obtain ⟨hc₃, hrest⟩ := isOfLoop_of_nodes ns hns hc₂
      refine ⟨hc₃, fun id hid => ?_⟩
      obtain hid | hid := hfront rest id hid
      · exact hrest id hid
      · exact hid

end

end Generation

end Curly
