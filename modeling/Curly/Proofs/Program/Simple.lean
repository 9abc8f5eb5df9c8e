import Curly.Proofs.Program.Correctness
import Curly.Proofs.Term.Rebase

/-!
Simple nodes: those whose expressions and conditions are all read as simple terms. Whether they are
does not depend on the numbers that their loops get, and from simple nodes statements of simple
terms are generated, which assign nothing.
-/

namespace Curly

/-! ## The terms of a program -/

/-- The term of a piece of output. -/
def Piece.terms : Piece → List Term
  | .text _ => []
  | .escaped t | .plain t => [t]

mutual

/-- The terms of a statement. -/
def Stmt.terms : Stmt → List Term
  | .emit pieces => pieces.flatMap Piece.terms
  | .branch condition body => condition :: termsOfStmts body
  | .bind _ value => [value]
  | .guard _ body => termsOfStmts body
  | .loop _ body => termsOfStmts body
  | .pass => []

/-- The terms of several statements. -/
def termsOfStmts : List Stmt → List Term
  | [] => []
  | s :: ss => s.terms ++ termsOfStmts ss

end

/-- The terms of a program: what has become of the expressions and conditions of its template. -/
def Program.terms (p : Program) : List Term := termsOfStmts p.body

@[simp]
theorem termsOfStmts_prepend (q : Piece) (ss : List Stmt) :
    termsOfStmts (Generation.prepend q ss) = q.terms ++ termsOfStmts ss := by
  unfold Generation.prepend
  split
  · simp [termsOfStmts, Stmt.terms]
  · simp [termsOfStmts, Stmt.terms]

@[simp]
theorem termsOfStmts_block (ss : List Stmt) :
    termsOfStmts (Generation.block ss) = termsOfStmts ss := by
  unfold Generation.block
  split
  · rfl
  · rfl

/-- A simple term over the data and the item of some loop. -/
def Term.IsPlain (t : Term) : Prop :=
  ∃ scope : Scope, scope.IsNumbered ∧ t.Plain [contextName, Term.thisName scope]

/-- Whether the term of a piece of output is simple. -/
def Piece.IsPlain (q : Piece) : Prop := ∀ t ∈ q.terms, t.IsPlain

mutual

/-- Whether the terms of a statement are simple, and its names are names of loops. -/
def Stmt.IsPlain : Stmt → Prop
  | .emit pieces => ∀ q ∈ pieces, q.IsPlain
  | .branch condition body => condition.IsPlain ∧ stmtsArePlain body
  | .bind name value => LoopNames.IsOfLoop name ∧ value.IsPlain
  | .guard items body => LoopNames.IsOfLoop items ∧ stmtsArePlain body
  | .loop names body => (∃ n, names = .numbered loopLead n) ∧ stmtsArePlain body
  | .pass => True

/-- `Stmt.IsPlain` for several statements. -/
def stmtsArePlain : List Stmt → Prop
  | [] => True
  | s :: ss => s.IsPlain ∧ stmtsArePlain ss

end

@[simp]
theorem stmtsArePlain_prepend (q : Piece) (ss : List Stmt) :
    stmtsArePlain (Generation.prepend q ss) ↔ q.IsPlain ∧ stmtsArePlain ss := by
  unfold Generation.prepend
  split
  · simp [stmtsArePlain, Stmt.IsPlain, and_assoc]
  · simp [stmtsArePlain, Stmt.IsPlain]

@[simp]
theorem stmtsArePlain_block (ss : List Stmt) :
    stmtsArePlain (Generation.block ss) ↔ stmtsArePlain ss := by
  unfold Generation.block
  split
  · simp [stmtsArePlain, Stmt.IsPlain]
  · rfl

theorem assigned_of_isConstant {e : Expr} (he : e.IsConstant) : e.assigned = [] := by
  induction he with
  | literal => rw [Expr.assigned]
  | infinity => rw [Expr.assigned]
  | unary op _ ih => rw [Expr.assigned, ih]

theorem Term.IsOperand.assigned {bindings : List String} {t : Term} (ht : t.IsOperand bindings) :
    t.expr.assigned = [] := by
  cases ht with
  | this => simp [expr, Expr.assigned]
  | path => simp [expr, call, Expr.apply, Expr.str, Expr.assigned, assignedOfArguments]
  | text => simp [expr, Expr.assigned]
  | integer => exact assigned_of_isConstant (isConstant_signed _ (.literal _))
  | double x =>
      obtain ⟨value, hx, hvalue⟩ := isConstant_ofDouble x
      rw [hx]
      exact assigned_of_isConstant hvalue

/-- Simple terms assign nothing. -/
theorem Term.Plain.assigned {bindings : List String} {t : Term} (ht : t.Plain bindings) :
    t.expr.assigned = [] := by
  cases ht with
  | operand ht => exact ht.assigned
  | comparison op hl hr =>
      cases op <;>
        simp [expr, call, Expr.apply, Expr.str, Expr.assigned, assignedOfArguments,
          assignedOfExprs, hl.assigned, hr.assigned]
  | truthy he => simp [expr, Expr.apply, Expr.assigned, assignedOfArguments, he.assigned]

theorem Term.IsPlain.assigned {t : Term} (ht : t.IsPlain) : t.expr.assigned = [] := by
  obtain ⟨scope, -, ht⟩ := ht
  exact ht.assigned

theorem Piece.IsPlain.assigned {q : Piece} (hq : q.IsPlain) : q.assigned = [] := by
  cases q with
  | text => simp [Piece.assigned, Piece.expr, Expr.str, Expr.assigned]
  | escaped t =>
      rw [Generation.assigned_escaped]
      exact (hq t List.mem_cons_self).assigned
  | plain t =>
      rw [Generation.assigned_plain]
      exact (hq t List.mem_cons_self).assigned

mutual

/-- Statements of simple terms assign nothing. -/
theorem Stmt.IsPlain.assigned : (s : Stmt) → s.IsPlain → s.assigned = []
  | .emit pieces, hs => by
      rw [Stmt.assigned, List.flatMap_eq_nil_iff]
      exact fun q hq => (hs q hq).assigned
  | .branch condition body, hs => by
      rw [Stmt.assigned, hs.1.assigned, assigned_of_stmtsArePlain body hs.2, List.append_nil]
  | .bind name value, hs => by
      rw [Stmt.assigned, hs.2.assigned]
  | .guard items body, hs => by
      rw [Stmt.assigned, assigned_of_stmtsArePlain body hs.2]
  | .loop names body, hs => by
      rw [Stmt.assigned, assigned_of_stmtsArePlain body hs.2]
  | .pass, _ => rfl

theorem assigned_of_stmtsArePlain : (ss : List Stmt) → stmtsArePlain ss → assignedOfStmts ss = []
  | [], _ => rfl
  | s :: ss, hss => by
      rw [assignedOfStmts, Stmt.IsPlain.assigned s hss.1, assigned_of_stmtsArePlain ss hss.2,
        List.append_nil]

end

/-! ## Nodes that are read as simple terms -/

mutual

/-- Whether the expressions of a node are read as terms with a property. -/
def Node.Reads (P : Term → Prop) (inLoop : Bool) : Node → Prop
  | .text _ => True
  | .variable expression | .raw expression =>
    Term.IsReadAs Term.readAccess P inLoop expression.toList
  | .cond condition children =>
    Term.IsReadAs Term.readCondition P inLoop condition.toList ∧ nodesRead P inLoop children
  | .each items children =>
    Term.IsReadAs Term.readAccess P inLoop items.toList ∧ nodesRead P true children
  | .foreign _ => False

/-- `Node.Reads` for several nodes. -/
def nodesRead (P : Term → Prop) (inLoop : Bool) : List Node → Prop
  | [] => True
  | n :: ns => n.Reads P inLoop ∧ nodesRead P inLoop ns

end

theorem nodesRead_append {P : Term → Prop} {inLoop : Bool} {ms ns : List Node} :
    nodesRead P inLoop (ms ++ ns) ↔ nodesRead P inLoop ms ∧ nodesRead P inLoop ns := by
  induction ms with
  | nil => simp [nodesRead]
  | cons m ms ih => rw [List.cons_append, nodesRead, nodesRead, ih, and_assoc]

namespace Generation

open Term

variable {P : Term → Prop}

-- The piece of a node may join the first statement of what follows it. So what is said of a node is
-- said for any statements `ss` behind it, in both directions.
mutual

/-- Nodes from which terms with a property are generated are read as such terms. -/
theorem reads_of_node (hP : IsStable P) {scope : Scope} {inLoop : Bool} {c c₁ : LoopCounter}
    {front : List Stmt → List Stmt} :
    (n : Node) → node scope n c = .ok (front, c₁) → scope.IsOf inLoop → c.lead = loopLead →
    ∀ ss, (∀ t ∈ termsOfStmts (front ss), P t) →
      n.Reads P inLoop ∧ ∀ t ∈ termsOfStmts ss, P t
  | .text text, h, hs, hc => by
      intro ss hss
      rw [node, pure_eq_ok] at h
      cases h
      rw [termsOfStmts_prepend] at hss
      exact ⟨trivial, fun t ht => hss t (List.mem_append_right _ ht)⟩
  | .variable expression, h, hs, hc => by
      intro ss hss
      obtain ⟨t, ht, hr⟩ := node_variable_eq_ok.1 h
      cases hr
      rw [termsOfStmts_prepend, Piece.terms, List.singleton_append, List.forall_mem_cons] at hss
      exact ⟨isReadAs_of_ok isReader_readAccess hP hs ht hss.1, hss.2⟩
  | .raw expression, h, hs, hc => by
      intro ss hss
      obtain ⟨t, ht, hr⟩ := node_raw_eq_ok.1 h
      cases hr
      rw [termsOfStmts_prepend, Piece.terms, List.singleton_append, List.forall_mem_cons] at hss
      exact ⟨isReadAs_of_ok isReader_readAccess hP hs ht hss.1, hss.2⟩
  | .cond condition children, h, hs, hc => by
      intro ss hss
      obtain ⟨t, ht, body, c₃, hbody, hr⟩ := node_cond_eq_ok.1 h
      cases hr
      simp only [termsOfStmts, Stmt.terms, termsOfStmts_block, List.cons_append,
        List.forall_mem_cons, List.forall_mem_append] at hss
      refine ⟨⟨?_, reads_of_nodes hP children hbody hs hc hss.2.1⟩, hss.2.2⟩
      exact isReadAs_of_ok isReader_readCondition hP hs ht hss.1
  | .each items children, h, hs, hc => by
      intro ss hss
      obtain ⟨t, ht, body, c₄, hbody, hr⟩ := node_each_eq_ok.1 h
      cases hr
      simp only [termsOfStmts, Stmt.terms, termsOfStmts_block, List.append_nil,
        List.singleton_append, List.forall_mem_cons, List.forall_mem_append] at hss
      -- inside the loop the scope has one more name of a loop, whatever was around it
      rw [hc] at hbody
      refine ⟨⟨?_, reads_of_nodes hP children hbody (hs.cons _) rfl hss.2.1⟩, hss.2.2⟩
      exact isReadAs_of_ok isReader_readAccess hP hs ht hss.1
  | .foreign typeName, h, _, _ => by
      rw [node] at h
      cases h

theorem reads_of_nodes (hP : IsStable P) {scope : Scope} {inLoop : Bool} {c c₁ : LoopCounter}
    {ss : List Stmt} :
    (ns : List Node) → nodes scope ns c = .ok (ss, c₁) → scope.IsOf inLoop → c.lead = loopLead →
    (∀ t ∈ termsOfStmts ss, P t) → nodesRead P inLoop ns
  | [], _, _, _, _ => trivial
  | n :: ns, h, hs, hc, hss => by
      obtain ⟨front, c₂, hn, rest, c₃, hns, hr⟩ := nodes_cons_eq_ok.1 h
      cases hr
      obtain ⟨hfirst, hrest⟩ := reads_of_node hP n hn hs hc rest hss
      have hc₂ := (isOfLoop_of_node n hn hc).1
      exact ⟨hfirst, reads_of_nodes hP ns hns hs hc₂ hrest⟩

end

mutual

/-- From nodes that are read as simple terms statements with such terms are generated, whatever
numbers the loops get. -/
theorem exists_node (hP : IsStable P) {scope : Scope} {inLoop : Bool} (c : LoopCounter)
    (hc : c.lead = loopLead) (hs : scope.IsOf inLoop) :
    (n : Node) → n.Reads P inLoop → ∃ front c₁, node scope n c = .ok (front, c₁) ∧
      ∀ ss, (∀ t ∈ termsOfStmts ss, P t) ∧ stmtsArePlain ss →
        (∀ t ∈ termsOfStmts (front ss), P t) ∧ stmtsArePlain (front ss)
  | .text text, _ => by
      refine ⟨_, c, rfl, fun ss hss => ?_⟩
      rw [termsOfStmts_prepend, stmtsArePlain_prepend]
      exact ⟨hss.1, fun t ht => absurd ht List.not_mem_nil, hss.2⟩
  | .variable expression, hn => by
      obtain ⟨t, ht, htP⟩ := hn.exists_ok isReader_readAccess hP hs
      have hplain : t.IsPlain := ⟨scope, hs.isNumbered, plain_of_readAccess ht (hP.isSimple htP)⟩
      refine ⟨_, c, node_variable_eq_ok.2 ⟨t, ht, rfl⟩, fun ss hss => ?_⟩
      rw [termsOfStmts_prepend, stmtsArePlain_prepend]
      exact ⟨List.forall_mem_cons.2 ⟨htP, hss.1⟩, List.forall_mem_singleton.2 hplain, hss.2⟩
  | .raw expression, hn => by
      obtain ⟨t, ht, htP⟩ := hn.exists_ok isReader_readAccess hP hs
      have hplain : t.IsPlain := ⟨scope, hs.isNumbered, plain_of_readAccess ht (hP.isSimple htP)⟩
      refine ⟨_, c, node_raw_eq_ok.2 ⟨t, ht, rfl⟩, fun ss hss => ?_⟩
      rw [termsOfStmts_prepend, stmtsArePlain_prepend]
      exact ⟨List.forall_mem_cons.2 ⟨htP, hss.1⟩, List.forall_mem_singleton.2 hplain, hss.2⟩
  | .cond condition children, hn => by
      obtain ⟨t, ht, htP⟩ := hn.1.exists_ok isReader_readCondition hP hs
      obtain ⟨body, c₁, hbody, hbodyP⟩ := exists_nodes hP c hc hs children hn.2
      have hplain : t.IsPlain :=
        ⟨scope, hs.isNumbered, plain_of_readCondition ht (hP.isSimple htP)⟩
      refine ⟨_, c₁, node_cond_eq_ok.2 ⟨t, ht, body, c₁, hbody, rfl⟩, fun ss hss => ?_⟩
      simp only [termsOfStmts, Stmt.terms, termsOfStmts_block, List.cons_append,
        List.forall_mem_cons, List.forall_mem_append, stmtsArePlain, Stmt.IsPlain,
        stmtsArePlain_block]
      exact ⟨⟨htP, hbodyP.1, hss.1⟩, ⟨hplain, hbodyP.2⟩, hss.2⟩
  | .each items children, hn => by
      obtain ⟨t, ht, htP⟩ := hn.1.exists_ok isReader_readAccess hP hs
      -- the children are read inside of a loop, whatever number the loop gets
      have hin : Scope.IsOf true (.numbered c.lead (c.opened + 1) :: scope) := by
        rw [hc]
        exact hs.cons _
      obtain ⟨body, c₁, hbody, hbodyP⟩ :=
        exists_nodes hP { c with opened := c.opened + 1 } hc hin children hn.2
      have hplain : t.IsPlain := ⟨scope, hs.isNumbered, plain_of_readAccess ht (hP.isSimple htP)⟩
      have hitems : LoopNames.IsOfLoop (LoopNames.numbered c.lead (c.opened + 1)).items := by
        rw [hc]
        exact ⟨c.opened + 1, by simp [LoopNames.all]⟩
      have hnames : ∃ n, LoopNames.numbered c.lead (c.opened + 1) = .numbered loopLead n :=
        ⟨c.opened + 1, by rw [hc]⟩
      refine ⟨_, c₁, node_each_eq_ok.2 ⟨t, ht, body, c₁, hbody, rfl⟩, fun ss hss => ?_⟩
      simp only [termsOfStmts, Stmt.terms, termsOfStmts_block, List.append_nil,
        List.singleton_append, List.forall_mem_cons, List.forall_mem_append, stmtsArePlain,
        Stmt.IsPlain, stmtsArePlain_block, and_true]
      exact ⟨⟨htP, hbodyP.1, hss.1⟩, ⟨hitems, hplain⟩, ⟨hitems, hnames, hbodyP.2⟩, hss.2⟩
  | .foreign _, hn => hn.elim

theorem exists_nodes (hP : IsStable P) {scope : Scope} {inLoop : Bool} (c : LoopCounter)
    (hc : c.lead = loopLead) (hs : scope.IsOf inLoop) :
    (ns : List Node) → nodesRead P inLoop ns →
      ∃ ss c₁, nodes scope ns c = .ok (ss, c₁) ∧
        (∀ t ∈ termsOfStmts ss, P t) ∧ stmtsArePlain ss
  | [], _ => ⟨[], c, rfl, fun _ ht => absurd ht List.not_mem_nil, trivial⟩
  | n :: ns, hns => by
      obtain ⟨front, c₁, hn, hnP⟩ := exists_node hP c hc hs n hns.1
      have hc₁ := (isOfLoop_of_node n hn hc).1
      obtain ⟨rest, c₂, hrest, hrestP⟩ := exists_nodes hP c₁ hc₁ hs ns hns.2
      exact ⟨_, c₂, nodes_cons_eq_ok.2 ⟨front, c₁, hn, rest, c₂, hrest, rfl⟩, hnP rest hrestP⟩

end

end Generation

end Curly
