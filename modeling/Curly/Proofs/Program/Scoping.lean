import Curly.Proofs.Program.Outline

/-!
Scoping: the loops of a template have names of their own, in the order of the document, and every
text of the template is read in the scope of the loops that are around its node.
-/

namespace Curly

/-! ## The names of the next loops -/

namespace LoopCounter

/-- The names that the next loops get. -/
def nextLoops (c : LoopCounter) (n : Nat) : List LoopNames :=
  (List.range' c.opened n).map fun i => .numbered c.lead (i + 1)

theorem nextLoops_succ (c : LoopCounter) (n : Nat) :
    c.nextLoops (n + 1) = c.next.1 :: (c.after 1).nextLoops n := rfl

theorem nextLoops_add (c : LoopCounter) (m n : Nat) :
    c.nextLoops (m + n) = c.nextLoops m ++ (c.after m).nextLoops n := by
  rw [nextLoops, ← List.range'_append_1, List.map_append]
  rfl

/-- At the beginning the next loops are the first ones. -/
theorem nextLoops_start (lead : String) (n : Nat) :
    nextLoops { lead := lead } n = LoopNames.firstLoops lead n := by
  rw [LoopNames.firstLoops, List.range_eq_range']
  rfl

end LoopCounter

mutual

/-- The loops that a node opens have the next names in turn. -/
theorem Node.heads_opens (scope : Scope) (c : LoopCounter) : (n : Node) →
    (n.opens scope c).map (·.2.head?) = (c.nextLoops n.loops).map some
  | .text _ | .variable _ | .raw _ | .foreign _ => rfl
  | .cond _ children => heads_opensIn scope c children
  | .each _ children => by
      rw [Node.opens, List.map_cons, heads_opensIn, Node.loops, LoopCounter.nextLoops_succ]
      rfl

theorem heads_opensIn (scope : Scope) (c : LoopCounter) : (ns : List Node) →
    (opensIn scope c ns).map (·.2.head?) = (c.nextLoops (loopsOf ns)).map some
  | [] => rfl
  | n :: ns => by
      rw [opensIn, List.map_append, n.heads_opens, heads_opensIn, loopsOf,
        LoopCounter.nextLoops_add, List.map_append]

end

mutual

/-- The names of the loops of a statement, in order. -/
def Stmt.loopNames : Stmt → List LoopNames
  | .emit _ | .bind .. | .pass => []
  | .branch _ body | .guard _ body => loopNamesIn body
  | .loop names body => names :: loopNamesIn body

/-- The names of the loops of statements, in order. -/
def loopNamesIn : List Stmt → List LoopNames
  | [] => []
  | s :: ss => s.loopNames ++ loopNamesIn ss

end

/-- The names of the loops of a program, in order. -/
def Program.loopNames (p : Program) : List LoopNames := loopNamesIn p.body

/-- What is put in an empty block has no loops. -/
theorem loopNamesIn_block (ss : List Stmt) :
    loopNamesIn (Generation.block ss) = loopNamesIn ss := by
  cases ss <;> rfl

/-- Output has no loops. -/
theorem loopsOf_append_of_putsOut {scope : Scope} {ms ns : List Node} {ps : List Piece}
    (h : List.Forall₂ (Node.PutsOut scope) ms ps) : loopsOf (ms ++ ns) = loopsOf ns := by
  induction h with
  | nil => rfl
  | @cons n q ms ps hn hms ih =>
    have hloops : n.loops = 0 := by cases hn <;> rfl
    rw [List.cons_append, loopsOf, hloops, ih, Nat.zero_add]

/-- Statements that have the blocks of nodes have loops with the next names in turn. -/
theorem Lays.loopNamesIn_eq {scope : Scope} {c : LoopCounter} {ns : List Node} {ss : List Stmt}
    (h : Lays scope c ns ss) : loopNamesIn ss = c.nextLoops (loopsOf ns) := by
  induction h with
  | nil => rfl
  | output hne hms hrest h ih =>
    rw [loopsOf_append_of_putsOut hms, ← ih]
    rfl
  | cond ht hbody h ihbody ih =>
    rw [loopNamesIn, Stmt.loopNames, loopNamesIn_block, ihbody, ih, loopsOf, Node.loops,
      LoopCounter.nextLoops_add]
  | @each scope c items children t body rest ss ht hbody h ihbody ih =>
    -- the loop stands in its guard, behind the statement that binds its items
    have hguard : loopNamesIn (.bind c.next.1.items t ::
        .guard c.next.1.items [.loop c.next.1 (Generation.block body)] :: ss) =
        c.next.1 :: (loopNamesIn (Generation.block body) ++ loopNamesIn ss) := by
      simp [loopNamesIn, Stmt.loopNames]
    rw [hguard, loopNamesIn_block, ihbody, ih, loopsOf, Node.loops, LoopCounter.nextLoops_add,
      LoopCounter.nextLoops_succ]
    rfl

/-! ## What the pass notes -/

namespace Emission

/-- What a pass has noted on the way from one state to another. -/
structure Notes (e after : Emission) (loops : Nat) (reads : List Occurrence)
    (opened : List (String × Scope)) : Prop where
  counter : after.counter = e.counter.after loops
  reads : after.reads = e.reads ++ reads
  opened : after.opened = e.opened ++ opened

namespace Notes

variable {e mid after : Emission} {m n : Nat} {reads reads' : List Occurrence}
  {opened opened' : List (String × Scope)}

theorem refl (e : Emission) : Notes e e 0 [] [] where
  counter := rfl
  reads := (List.append_nil _).symm
  opened := (List.append_nil _).symm

theorem trans (h : Notes e mid m reads opened) (h' : Notes mid after n reads' opened') :
    Notes e after (m + n) (reads ++ reads') (opened ++ opened') where
  counter := by rw [h'.counter, h.counter, LoopCounter.after_after]
  reads := by rw [h'.reads, h.reads, List.append_assoc]
  opened := by rw [h'.opened, h.opened, List.append_assoc]

/-- Nodes behind what was noted. -/
theorem append {scope : Scope} {ns : List Node} (h : Notes e mid m reads opened)
    (h' : Notes mid after n (occurrencesIn scope mid.counter ns) (opensIn scope mid.counter ns)) :
    Notes e after (m + n) (reads ++ occurrencesIn scope (e.counter.after m) ns)
      (opened ++ opensIn scope (e.counter.after m) ns) := by
  rw [h.counter] at h'
  exact h.trans h'

theorem write (h : Notes e after n reads opened) (s : ListingStep) :
    Notes e (after.write s) n reads opened := ⟨h.counter, h.reads, h.opened⟩

theorem wait (h : Notes e after n reads opened) (q : Piece) :
    Notes e (after.wait q) n reads opened := ⟨h.counter, h.reads, h.opened⟩

theorem flush (h : Notes e after n reads opened) : Notes e after.flush n reads opened := by
  rw [Emission.flush]
  split
  · exact h
  · exact ⟨h.counter, h.reads, h.opened⟩

/-- What is done after a text was read. -/
theorem read {o : Occurrence} {k : Term × Emission → Except ExpressionFailure Emission}
    (hk : ∀ t, k (t, e.note o) = .ok after → Notes (e.note o) after n reads opened)
    (h : e.read o >>= k = .ok after) : Notes e after n (o :: reads) opened := by
  obtain ⟨⟨t, _⟩, hread, hafter⟩ := Except.bind_eq_ok_iff.1 h
  obtain ⟨t, -, hread⟩ := Except.bind_eq_ok_iff.1 hread
  cases hread
  obtain ⟨hcounter, hreads, hopened⟩ := hk t hafter
  refine ⟨hcounter, ?_, hopened⟩
  rw [hreads, List.append_cons]
  rfl

end Notes

/-- A loop that is opened is noted. -/
theorem notes_openLoop (e : Emission) (items : String) (scope : Scope) :
    Notes e (e.openLoop items scope) 1 [] [(items, e.counter.next.1 :: scope)] where
  counter := rfl
  reads := (List.append_nil _).symm
  opened := rfl

mutual

/-- A pass over a node reads the texts in it and opens its loops, each in its scope. -/
theorem notes_node {scope : Scope} {e after : Emission} : (n : Node) →
    node scope e n = .ok after →
    Notes e after n.loops (n.occurrences scope e.counter) (n.opens scope e.counter)
  | .text value, h => by
      cases h
      exact (Notes.refl e).wait _
  | .variable expression, h | .raw expression, h => by
      refine .read (o := .access scope expression) (fun t ht => ?_) h
      cases ht
      exact (Notes.refl _).wait _
  | .cond condition children, h => by
      refine .read (o := .condition scope condition) (fun t ht => ?_) h
      obtain ⟨last, hblock, hafter⟩ := Except.bind_eq_ok_iff.1 ht
      cases hafter
      have hhead := (((Notes.refl (e.note (.condition scope condition))).flush).write
        (.line (Stmt.branchLine t))).write .indent
      have hbody := (hhead.append (notes_block children hblock)).write .dedent
      rwa [Nat.zero_add] at hbody
  | .each items children, h => by
      refine .read (o := .access scope items) (fun t ht => ?_) h
      obtain ⟨last, hblock, hafter⟩ := Except.bind_eq_ok_iff.1 ht
      cases hafter
      -- the loop gets its names before its nodes, and what waits is put out in between
      have hopen := notes_openLoop (e.note (.access scope items)) items scope
      have hbind := hopen.flush.write (.line (Stmt.bindLine e.counter.next.1.items t))
      have hguard := (hbind.write (.line (Stmt.guardLine e.counter.next.1.items))).write .indent
      have hhead := (hguard.write (.line (Stmt.loopLine e.counter.next.1))).write .indent
      have hbody := ((hhead.append (notes_block children hblock)).write .dedent).write .dedent
      rwa [Nat.add_comm] at hbody
  | .foreign typeName, h => by
      cases h

theorem notes_nodes {scope : Scope} {e after : Emission} : (ns : List Node) →
    nodes scope e ns = .ok after →
    Notes e after (loopsOf ns) (occurrencesIn scope e.counter ns) (opensIn scope e.counter ns)
  | [], h => by
      cases h
      exact .refl e
  | n :: ns, h => by
      obtain ⟨mid, hn, hns⟩ := Except.bind_eq_ok_iff.1 h
      exact (notes_node n hn).append (notes_nodes ns hns)

theorem notes_block {scope : Scope} {e after : Emission} : (ns : List Node) →
    block scope e ns = .ok after →
    Notes e after (loopsOf ns) (occurrencesIn scope e.counter ns) (opensIn scope e.counter ns)
  | [], h => by
      cases h
      exact (Notes.refl e).write _
  | n :: ns, h => by
      obtain ⟨mid, hn, hrest⟩ := Except.bind_eq_ok_iff.1 h
      obtain ⟨last, hns, hafter⟩ := Except.bind_eq_ok_iff.1 hrest
      cases hafter
      exact ((notes_node n hn).append (notes_nodes ns hns)).flush

end

/-- The pass over a template reads the texts of its spots, and opens the loops at them. -/
theorem notes_ofTree {t : Tree} {e : Emission} (h : ofTree t = .ok e) :
    Notes {} e (loopsOf t.children) (t.spots.flatMap (Spot.reads t.spots))
      (t.spots.zipIdx.flatMap (Spot.opens t.spots)) := by
  obtain ⟨last, hnodes, hafter⟩ := Except.bind_eq_ok_iff.1 h
  cases hafter
  have hstart : Notes {} start 0 [] [] := ⟨rfl, rfl, rfl⟩
  have hbody := hstart.append (notes_nodes t.children hnodes)
  rw [Nat.zero_add] at hbody
  rw [← t.occurrences_eq, ← t.opens_eq]
  exact (hbody.flush.write _).write _

/-- **Names of loops are fresh and well scoped.** Of a template that has a program, the pass writes
the listing of the program. It reads the texts of the template, each in the scope of the loops that
are around its node, the innermost first: their names are bound there, and no others. It opens the
loops in the order of the document, and they get the names with the numbers from one on; all these
names are different, and different from the other names of generated code. The same holds of loops
that are opened in turn inside of any others, whatever leads their names. -/
theorem ofTree_isScoped {t : Tree} {p : Program} (hp : Program.ofTree t = .ok p) :
    (∃ e, ofTree t = .ok e ∧ e.steps.map Prod.fst = p.steps ∧
      e.reads = t.spots.flatMap (Spot.reads t.spots) ∧
      e.opened = t.spots.zipIdx.flatMap (Spot.opens t.spots) ∧
      e.opened.map (·.2.head?) = p.loopNames.map some) ∧
    p.loopNames = LoopNames.firstLoops loopLead (t.spots.countP Spot.isLoop) ∧
    LoopNames.AreFresh p.loopNames ∧
    (∀ x ∈ t.spots.zipIdx, ∀ i ∈ x.1.around, i < x.2) ∧
    (∀ q ∈ t.spots, (q.around = [] ∧ q.node ∈ t.children ∨ q.IsInside t.spots) ∧
      (Spot.scopeOf t.spots q.around).ConsistsOf loopLead (Spot.numbers t.spots q.around)) ∧
    ∀ (lead : String) (parents : List (Option Nat)), AreEarlier parents →
      LoopNames.AreFresh (LoopNames.firstLoops lead parents.length) ∧
      LoopCounter.AreChains lead parents (LoopCounter.openAll { lead := lead } [] parents) := by
  obtain ⟨e, he, hwrites, -⟩ := exists_ofTree hp
  obtain ⟨c, hgen⟩ := Program.ofTree_eq_ok_iff.1 hp
  obtain ⟨-, hlays⟩ := Generation.lays_nodes t.children hgen
  have hnotes := notes_ofTree he
  have hnames : p.loopNames = LoopNames.firstLoops loopLead (loopsOf t.children) :=
    hlays.loopNamesIn_eq.trans (LoopCounter.nextLoops_start loopLead _)
  -- loops are counted in the program, in the nodes and in the spots, and the three agree
  have hcount : t.spots.countP Spot.isLoop = loopsOf t.children := countP_spotsIn 0 [] t.children
  refine ⟨⟨e, he, ?_, hnotes.reads, hnotes.opened, ?_⟩, ?_, ?_, t.lt_of_mem_around, ?_, ?_⟩
  · rw [hwrites, p.map_fst_writes]
  · have hopened : e.opened = opensIn [] {} t.children := hnotes.opened.trans t.opens_eq.symm
    rw [hopened, heads_opensIn, hnames, LoopCounter.nextLoops_start]
  · rw [hnames, hcount]
  · rw [hnames]
    exact LoopNames.areFresh_firstLoops loopLead _
  · exact fun q hq => ⟨t.mem_or_isInside q hq, Scope.consistsOf_map loopLead _⟩
  · exact fun lead parents hparents =>
      ⟨LoopNames.areFresh_firstLoops lead _, LoopCounter.areChains_openAll lead hparents⟩

/-- Two loops inside of each other, a loop in a condition, and a text behind them. -/
theorem ofTree_isScoped_loops :
    let t : Tree := ⟨[.each "xs" [.variable "a", .each "ys" [.raw "b"]],
      .cond "c" [.each "zs" [.variable "d"]], .variable "e"]⟩
    let loop := LoopNames.numbered loopLead
    ∃ p e, Program.ofTree t = .ok p ∧ ofTree t = .ok e ∧ p.loopNames = [loop 1, loop 2, loop 3] ∧
      e.reads = [.access [] "xs", .access [loop 1] "a", .access [loop 1] "ys",
        .access [loop 2, loop 1] "b", .condition [] "c", .access [] "zs", .access [loop 3] "d",
        .access [] "e"] ∧
      LoopNames.AreFresh p.loopNames := by
  intro t loop
  have hsome : (Program.ofTree t).toOption.isSome := by decide +kernel
  obtain ⟨p, hp⟩ := Option.isSome_iff_exists.1 hsome
  have hp := Except.eq_ok_of_toOption hp
  obtain ⟨⟨e, he, -, hreads, -, -⟩, hnames, hfresh, -⟩ := ofTree_isScoped hp
  exact ⟨p, e, hp, he, hnames, hreads, hfresh⟩

end Emission

end Curly
