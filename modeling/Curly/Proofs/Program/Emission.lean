import Curly.Proofs.Program.Generation
import Curly.Proofs.Program.Occurrence

/-!
Emission: a program written in one pass over the template. Instead of statements the pass makes
lines. Pieces of output wait until a line of another kind or the end of a block comes, and are put
out together before it.

What the pass writes is the listing of the program that generation makes. What waits at each step is
told by the statements, too: pieces wait only when the line that puts them out is written.
-/

namespace Curly

/-! ## The pass -/

namespace Stmt

/-- The line that opens the block of a condition. -/
def branchLine (condition : Term) : String := "if " ++ condition.code ++ ":"

/-- The line that binds the items of a loop. -/
def bindLine (name : String) (value : Term) : String := name ++ " = " ++ value.code

/-- The line that opens the guard of a loop. -/
def guardLine (items : String) : String :=
  "if " ++ Term.callCode Helper.isArray.name [items] ++ ":"

/-- The line that opens a loop. -/
def loopLine (names : LoopNames) : String :=
  "for " ++ names.index ++ ", " ++ names.item ++ " in " ++
    Term.callCode counterName [names.items] ++ ":"

/-- The line of an empty block. -/
def passLine : String := "pass"

end Stmt

namespace Program

/-- The line that opens a program. -/
def headLine : String := s!"def render({contextName}):"

/-- The lines that set the variables of the output. -/
def outputLines : List String :=
  [s!"{resultName} = []", s!"{appendName} = {resultName}.append",
    s!"{extendName} = {resultName}.extend"]

/-- The last line of a program. -/
def returnLine : String := s!"return ''.join({resultName})"

end Program

/-- A pass so far: what was done to the listing, each time with the pieces that waited to be put
out; the pieces that wait now; the loops that have got their names; what was read; and the loops
that were opened, each with what it goes through and the scope of its nodes. -/
structure Emission where
  steps : List (ListingStep × List Piece) := []
  waiting : List Piece := []
  counter : LoopCounter := {}
  reads : List Occurrence := []
  opened : List (String × Scope) := []

namespace Emission

/-- Does something to the listing. -/
def write (e : Emission) (s : ListingStep) : Emission :=
  { e with steps := e.steps ++ [(s, e.waiting)] }

/-- Puts off a piece of output. -/
def wait (e : Emission) (q : Piece) : Emission := { e with waiting := e.waiting ++ [q] }

/-- Puts out the pieces that wait. -/
def flush (e : Emission) : Emission :=
  match e.waiting with
  | [] => e
  | ps => { e.write (.line (Stmt.emitCode ps)) with waiting := [] }

/-- Notes what is read. -/
def note (e : Emission) (o : Occurrence) : Emission := { e with reads := e.reads ++ [o] }

/-- Reads a text. -/
def read (e : Emission) (o : Occurrence) : Except ExpressionFailure (Term × Emission) := do
  let t ← o.read
  return (t, e.note o)

/-- Opens a loop inside of others: it gets the next names. -/
def openLoop (e : Emission) (items : String) (scope : Scope) : Emission :=
  { e with
    counter := e.counter.next.2
    opened := e.opened ++ [(items, e.counter.next.1 :: scope)] }

mutual

/-- Goes over a node. -/
def node (scope : Scope) (e : Emission) : Node → Except ExpressionFailure Emission
  | .text value => return e.wait (.text value)
  | .variable expression => do
    let (t, e) ← e.read (.access scope expression)
    return e.wait (.escaped t)
  | .raw expression => do
    let (t, e) ← e.read (.access scope expression)
    return e.wait (.plain t)
  | .cond condition children => do
    let (t, e) ← e.read (.condition scope condition)
    let e := (e.flush.write (.line (Stmt.branchLine t))).write .indent
    let e ← block scope e children
    return e.write .dedent
  | .each items children => do
    let (t, e) ← e.read (.access scope items)
    let names := e.counter.next.1
    let e := e.openLoop items scope
    let e := e.flush.write (.line (Stmt.bindLine names.items t))
    let e := (e.write (.line (Stmt.guardLine names.items))).write .indent
    let e := (e.write (.line (Stmt.loopLine names))).write .indent
    let e ← block (names :: scope) e children
    return (e.write .dedent).write .dedent
  | .foreign typeName => do
    let (_, e) ← e.read (.foreign typeName)
    return e

/-- Goes over nodes. -/
def nodes (scope : Scope) (e : Emission) : List Node → Except ExpressionFailure Emission
  | [] => return e
  | n :: ns => do
    let e ← node scope e n
    nodes scope e ns

/-- Goes over the nodes of a block. -/
def block (scope : Scope) (e : Emission) : List Node → Except ExpressionFailure Emission
  | [] => return e.write (.line Stmt.passLine)
  | n :: ns => do
    let e ← node scope e n
    let e ← nodes scope e ns
    return e.flush

end

/-- A pass in which the head of a program was written. -/
def start : Emission :=
  let e := (({} : Emission).write (.line Program.headLine)).write .indent
  Program.outputLines.foldl (fun e text => e.write (.line text)) e

/-- The pass over a whole template. -/
def ofTree (t : Tree) : Except ExpressionFailure Emission := do
  let e ← nodes [] start t.children
  return (e.flush.write (.line Program.returnLine)).write .dedent

end Emission

/-! ## What statements write -/

mutual

/-- What a statement does to the listing, with the pieces that wait then: those that it puts out. -/
def Stmt.writes : Stmt → List (ListingStep × List Piece)
  | .emit pieces => [(.line (Stmt.emitCode pieces), pieces)]
  | .branch condition body =>
    (.line (Stmt.branchLine condition), []) :: (.indent, []) :: writesOfAll body ++ [(.dedent, [])]
  | .bind name value => [(.line (Stmt.bindLine name value), [])]
  | .guard items body =>
    (.line (Stmt.guardLine items), []) :: (.indent, []) :: writesOfAll body ++ [(.dedent, [])]
  | .loop names body =>
    (.line (Stmt.loopLine names), []) :: (.indent, []) :: writesOfAll body ++ [(.dedent, [])]
  | .pass => [(.line Stmt.passLine, [])]

/-- `Stmt.writes` of several statements. -/
def writesOfAll : List Stmt → List (ListingStep × List Piece)
  | [] => []
  | s :: ss => s.writes ++ writesOfAll ss

end

/-- What a program does to the listing, with the pieces that wait then. -/
def Program.writes (p : Program) : List (ListingStep × List Piece) :=
  Emission.start.steps ++ writesOfAll p.body ++ [(.line returnLine, []), (.dedent, [])]

mutual

theorem Stmt.map_fst_writes : (s : Stmt) → s.writes.map Prod.fst = s.steps
  | .emit _ | .bind .. | .pass => rfl
  | .branch condition body => by
      simp only [Stmt.writes, Stmt.steps, List.map_cons, List.map_append, List.map_nil,
        map_fst_writesOfAll body, List.cons_append]
      rfl
  | .guard items body => by
      simp only [Stmt.writes, Stmt.steps, List.map_cons, List.map_append, List.map_nil,
        map_fst_writesOfAll body, List.cons_append]
      rfl
  | .loop names body => by
      simp only [Stmt.writes, Stmt.steps, List.map_cons, List.map_append, List.map_nil,
        map_fst_writesOfAll body, List.cons_append]
      rfl

theorem map_fst_writesOfAll : (ss : List Stmt) →
    (writesOfAll ss).map Prod.fst = Stmt.stepsOfAll ss
  | [] => rfl
  | s :: ss => by
      rw [writesOfAll, Stmt.stepsOfAll, List.map_append, Stmt.map_fst_writes s,
        map_fst_writesOfAll ss]

end

/-- What a program does to the listing is its listing. -/
theorem Program.map_fst_writes (p : Program) : p.writes.map Prod.fst = p.steps := by
  rw [writes, List.map_append, List.map_append, map_fst_writesOfAll]
  rfl

mutual

/-- Pieces wait only where they are put out. -/
theorem Stmt.waits_of_mem_writes : (s : Stmt) → ∀ w ∈ s.writes,
    w.2 ≠ [] → w.1 = .line (Stmt.emitCode w.2)
  | .emit pieces => by
      rw [Stmt.writes, List.forall_mem_singleton]
      exact fun _ => rfl
  | .branch condition body => by
      -- nothing waits where the level changes, and by induction the lines inside are as they should
      -- be
      simp only [Stmt.writes, List.cons_append, List.forall_mem_cons, List.forall_mem_append]
      exact ⟨absurd rfl, absurd rfl, waits_of_mem_writesOfAll body, absurd rfl, nofun⟩
  | .bind name value => by
      rw [Stmt.writes, List.forall_mem_singleton]
      exact absurd rfl
  | .guard items body => by
      simp only [Stmt.writes, List.cons_append, List.forall_mem_cons, List.forall_mem_append]
      exact ⟨absurd rfl, absurd rfl, waits_of_mem_writesOfAll body, absurd rfl, nofun⟩
  | .loop names body => by
      simp only [Stmt.writes, List.cons_append, List.forall_mem_cons, List.forall_mem_append]
      exact ⟨absurd rfl, absurd rfl, waits_of_mem_writesOfAll body, absurd rfl, nofun⟩
  | .pass => by
      rw [Stmt.writes, List.forall_mem_singleton]
      exact absurd rfl

theorem waits_of_mem_writesOfAll : (ss : List Stmt) → ∀ w ∈ writesOfAll ss,
    w.2 ≠ [] → w.1 = .line (Stmt.emitCode w.2)
  | [] => nofun
  | s :: ss => by
      rw [writesOfAll, List.forall_mem_append]
      exact ⟨s.waits_of_mem_writes, waits_of_mem_writesOfAll ss⟩

end

/-! ## The pass against generation -/

/-- Statements before which pieces wait to be put out. -/
def waitingThen (ps : List Piece) (ss : List Stmt) : List Stmt := ps.foldr Generation.prepend ss

namespace Emission

/-- Statements that do not begin with output. -/
def BeginsAnew (ss : List Stmt) : Prop := ∀ ps rest, ss ≠ .emit ps :: rest

theorem waitingThen_snoc (ps : List Piece) (q : Piece) (ss : List Stmt) :
    waitingThen (ps ++ [q]) ss = waitingThen ps (Generation.prepend q ss) := by
  simp [waitingThen]

/-- Before other statements than output the pieces that wait are one statement. -/
theorem waitingThen_cons {q : Piece} {ps : List Piece} {ss : List Stmt} (hss : BeginsAnew ss) :
    waitingThen (q :: ps) ss = .emit (q :: ps) :: ss := by
  induction ps generalizing q with
  | nil =>
    show Generation.prepend q ss = _
    rw [Generation.prepend]
    exact fun ps rest h => hss ps rest h
  | cons q' ps ih =>
    show Generation.prepend q (waitingThen (q' :: ps) ss) = _
    rw [ih]
    rfl

@[simp] theorem steps_write (e : Emission) (s : ListingStep) :
    (e.write s).steps = e.steps ++ [(s, e.waiting)] := rfl

@[simp] theorem waiting_write (e : Emission) (s : ListingStep) :
    (e.write s).waiting = e.waiting := rfl

@[simp] theorem counter_note (e : Emission) (o : Occurrence) :
    (e.note o).counter = e.counter := rfl

@[simp] theorem waiting_flush (e : Emission) : e.flush.waiting = [] := by
  rw [flush]
  split
  case h_1 h => exact h
  case h_2 => rfl

@[simp] theorem counter_flush (e : Emission) : e.flush.counter = e.counter := by
  rw [flush]
  split <;> rfl

/-- What waits is written before other statements than output. -/
theorem steps_flush (e : Emission) (ss : List Stmt) (hss : BeginsAnew ss) :
    e.steps ++ writesOfAll (waitingThen e.waiting ss) = e.flush.steps ++ writesOfAll ss := by
  rw [flush]
  cases h : e.waiting with
  | nil => rfl
  | cons q ps =>
    rw [waitingThen_cons hss, writesOfAll, Stmt.writes]
    simp [write, h]

/-- A pass and a generation that go together: both fail in the same way, or both succeed, count the
same loops, and make things that are related. -/
inductive Follows {α : Type} (P : α → Emission → Prop) :
    Except ExpressionFailure Emission → Except ExpressionFailure (α × LoopCounter) → Prop
  | ok {a : α} {e : Emission} (h : P a e) : Follows P (.ok e) (.ok (a, e.counter))
  | error (f : ExpressionFailure) : Follows P (.error f) (.error f)

namespace Follows

variable {α β : Type} {P : α → Emission → Prop} {Q : β → Emission → Prop}

theorem bind {x : Except ExpressionFailure Emission} {g : Generation α} {c : LoopCounter}
    {k : Emission → Except ExpressionFailure Emission} {l : α → Generation β}
    (h : Follows P x (g c)) (hk : ∀ a e, P a e → Follows Q (k e) (l a e.counter)) :
    Follows Q (x >>= k) ((g >>= l) c) := by
  show Follows Q (x >>= k) (g c >>= fun r => l r.1 r.2)
  generalize g c = y at h
  cases h with
  | ok h => exact hk _ _ h
  | error f => exact .error f

/-- What is made of a result does not matter for the pass. -/
theorem map {x : Except ExpressionFailure Emission} {g : Generation α} {c : LoopCounter}
    {f : α → β} (h : Follows P x (g c)) (hQ : ∀ a e, P a e → Q (f a) e) :
    Follows Q x ((g >>= fun a => Pure.pure (f a)) c) := by
  show Follows Q x (g c >>= fun r => .ok (f r.1, r.2))
  generalize g c = y at h
  cases h with
  | ok h => exact .ok (hQ _ _ h)
  | error f => exact .error f

/-- What is read is read on both sides. -/
theorem read {o : Occurrence} {e : Emission} {c : LoopCounter}
    {k : Term × Emission → Except ExpressionFailure Emission} {l : Term → Generation α}
    (hk : ∀ t, Follows P (k (t, e.note o)) (l t c)) :
    Follows P (e.read o >>= k) (((liftM o.read : Generation Term) >>= l) c) := by
  rw [Generation.lift_bind, Emission.read]
  cases o.read with
  | error f => exact .error f
  | ok t => exact hk t

theorem pure {a : α} {e : Emission} {c : LoopCounter} (hc : e.counter = c) (h : P a e) :
    Follows P (.ok e) ((Pure.pure a : Generation α) c) := hc ▸ .ok h

end Follows

/-- A statement that opens a block begins anew. -/
theorem beginsAnew_cons {s : Stmt} (hs : ∀ ps, s ≠ .emit ps) (ss : List Stmt) :
    BeginsAnew (s :: ss) := fun ps _ h => hs ps (List.cons.inj h).1

theorem prepend_ne_nil (q : Piece) (ss : List Stmt) : Generation.prepend q ss ≠ [] := by
  rw [Generation.prepend.eq_def]
  split <;> exact List.cons_ne_nil _ _

/-- The pass goes from one state to another as statements are put in front of others. What waits
behind them is part of what comes next. -/
def Puts (front : List Stmt → List Stmt) (e after : Emission) : Prop :=
  ∀ ss, front ss ≠ [] ∧ e.steps ++ writesOfAll (waitingThen e.waiting (front ss)) =
    after.steps ++ writesOfAll (waitingThen after.waiting ss)

theorem puts_wait (q : Piece) (e : Emission) : Puts (Generation.prepend q) e (e.wait q) :=
  fun ss => ⟨prepend_ne_nil q ss, by rw [wait, waitingThen_snoc]⟩

mutual

/-- A pass over a node writes the statements that are generated from it. -/
theorem follows_node (scope : Scope) {e : Emission} {c : LoopCounter} (hc : e.counter = c) :
    (n : Node) →
    Follows (fun front after => Puts front e after) (node scope e n) (Generation.node scope n c)
  | .text value => .pure hc (puts_wait (.text value) e)
  | .variable expression =>
      .read (o := .access scope expression) fun t => .pure hc (puts_wait (.escaped t) (e.note _))
  | .raw expression =>
      .read (o := .access scope expression) fun t => .pure hc (puts_wait (.plain t) (e.note _))
  | .cond condition children => by
      refine .read (o := .condition scope condition) fun t => ?_
      refine .bind (follows_block scope ?_ ?_ children) fun body after h => .pure rfl fun ss => ?_
      · exact (counter_flush _).trans hc
      · exact waiting_flush _
      · -- what waits is one statement in front of the condition, and nothing waits behind it
        obtain ⟨hsteps, hwaiting⟩ := h
        refine ⟨List.cons_ne_nil _ _, ?_⟩
        have hflush := steps_flush (e.note (.condition scope condition)) _
          (beginsAnew_cons (s := .branch t (Generation.block body)) nofun ss)
        refine hflush.trans ?_
        simp [hsteps, hwaiting, writesOfAll, Stmt.writes, waitingThen]
  | .each items children => by
      subst hc
      refine .read (o := .access scope items) fun t => ?_
      rw [Generation.nextLoop_bind]
      refine .bind (follows_block _ ?_ ?_ children) fun body after h => .pure rfl fun ss => ?_
      · exact counter_flush _
      · exact waiting_flush _
      · -- the same, in front of the statement that binds the items
        obtain ⟨hsteps, hwaiting⟩ := h
        refine ⟨List.cons_ne_nil _ _, ?_⟩
        have hflush := steps_flush ((e.note (.access scope items)).openLoop items scope) _
          (beginsAnew_cons (s := .bind e.counter.next.1.items t) nofun
            (.guard e.counter.next.1.items [.loop e.counter.next.1 (Generation.block body)] :: ss))
        refine hflush.trans ?_
        simp [hsteps, hwaiting, writesOfAll, Stmt.writes, waitingThen]
  | .foreign typeName => .error _

theorem follows_nodes (scope : Scope) {e : Emission} {c : LoopCounter} (hc : e.counter = c) :
    (ns : List Node) →
    Follows (fun ss after => e.steps ++ writesOfAll (waitingThen e.waiting ss) =
        after.steps ++ writesOfAll (waitingThen after.waiting []))
      (nodes scope e ns) (Generation.nodes scope ns c)
  | [] => .pure hc rfl
  | n :: ns => by
      refine .bind (follows_node scope hc n) fun front mid hmid => ?_
      exact (follows_nodes scope rfl ns).map fun ss after hafter => (hmid ss).2.trans hafter

/-- A block in front of which nothing waits is written whole, and nothing waits behind it. -/
theorem follows_block (scope : Scope) {e : Emission} {c : LoopCounter} (hc : e.counter = c)
    (he : e.waiting = []) : (ns : List Node) →
    Follows (fun ss after => after.steps = e.steps ++ writesOfAll (Generation.block ss) ∧
        after.waiting = [])
      (block scope e ns) (Generation.nodes scope ns c)
  | [] => by
      refine .pure hc ⟨?_, he⟩
      rw [steps_write, he]
      rfl
  | n :: ns => by
      refine .bind (follows_node scope hc n) fun front mid hmid => ?_
      refine .bind (follows_nodes scope rfl ns) fun ss after hafter => ?_
      refine .pure (counter_flush after) ⟨?_, waiting_flush after⟩
      -- the nodes may leave pieces behind, and the flush at the end of the block writes them
      obtain ⟨hne, hfront⟩ := hmid ss
      have hflush := steps_flush after [] nofun
      have hall := (hfront.trans hafter).trans hflush
      rw [he] at hall
      rw [Generation.block, ← List.append_nil after.flush.steps]
      · exact hall.symm
      · exact hne

end

/-- **The pass writes the listing of the generated program**, with the pieces that wait at each
step, and fails as generation does. -/
theorem map_steps_ofTree (t : Tree) :
    (ofTree t).map (·.steps) = (Program.ofTree t).map Program.writes := by
  have hnodes := follows_nodes [] (e := start) (c := {}) rfl t.children
  rw [ofTree, Program.ofTree, StateT.run]
  generalize nodes [] start t.children = x at hnodes
  generalize Generation.nodes [] t.children {} = g at hnodes
  cases hnodes with
  | error f => rfl
  | @ok ss after h =>
    -- nothing waits behind the head, and what waits behind the body is put out
    have hbody : start.steps ++ writesOfAll ss = after.flush.steps := by
      rw [← List.append_nil after.flush.steps]
      exact h.trans (steps_flush after [] nofun)
    show Except.ok ((after.flush.write (.line Program.returnLine)).write .dedent).steps =
      Except.ok (Program.writes ⟨ss⟩)
    rw [steps_write, steps_write, waiting_write, waiting_flush, Program.writes, hbody]
    simp

end Emission

end Curly
