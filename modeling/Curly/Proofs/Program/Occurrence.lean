import Curly.Program.Generation
import Curly.Proofs.Scope

/-!
The texts of a tree: what is read in it, in the order of the document, each text in the scope of the
loops around it. Loops get their numbers in this order, too.

The spots of a tree are its nodes in the order of the document, each with the nodes around it. They
tell which loops are around a node and which numbers these have, without a counter that is passed
on; and the texts of the tree are those of its spots, each in the scope that its spot has.
-/

namespace Curly

/-- What is read at a place of a tree, in the scope of the loops around it, or what is no node of a
template there. -/
inductive Occurrence
  | access (scope : Scope) (text : String)
  | condition (scope : Scope) (text : String)
  | foreign (typeName : String)

/-- Reads what is there. -/
def Occurrence.read : Occurrence → Except ExpressionFailure Term
  | .access scope text => Term.readAccess scope text.toList
  | .condition scope text => Term.readCondition scope text.toList
  | .foreign typeName => .error ⟨.unknownNode typeName, none⟩

mutual

/-- How many loops a node opens. -/
def Node.loops : Node → Nat
  | .cond _ children => loopsOf children
  | .each _ children => loopsOf children + 1
  | .text _ | .variable _ | .raw _ | .foreign _ => 0

/-- How many loops nodes open. -/
def loopsOf : List Node → Nat
  | [] => 0
  | n :: ns => n.loops + loopsOf ns

end

/-- The counter when some more loops have been opened. -/
def LoopCounter.after (c : LoopCounter) (loops : Nat) : LoopCounter :=
  { c with opened := c.opened + loops }

theorem LoopCounter.after_after (c : LoopCounter) (m n : Nat) :
    (c.after m).after n = c.after (m + n) := by
  simp [after, Nat.add_assoc]

mutual

/-- What is read in a node, in the order of the document. The loops get their numbers in this order,
too. -/
def Node.occurrences (scope : Scope) (c : LoopCounter) : Node → List Occurrence
  | .text _ => []
  | .variable expression | .raw expression => [.access scope expression]
  | .cond condition children => .condition scope condition :: occurrencesIn scope c children
  | .each items children =>
    .access scope items :: occurrencesIn (c.next.1 :: scope) (c.after 1) children
  | .foreign typeName => [.foreign typeName]

/-- What is read in nodes, in the order of the document. -/
def occurrencesIn (scope : Scope) (c : LoopCounter) : List Node → List Occurrence
  | [] => []
  | n :: ns => n.occurrences scope c ++ occurrencesIn scope (c.after n.loops) ns

end

/-- What is read in a tree, in the order of the document. -/
def Tree.occurrences (t : Tree) : List Occurrence := occurrencesIn [] {} t.children

mutual

/-- The loops that a node opens, in the order of the document: what each of them goes through, and
the scope of its own nodes. -/
def Node.opens (scope : Scope) (c : LoopCounter) : Node → List (String × Scope)
  | .text _ | .variable _ | .raw _ | .foreign _ => []
  | .cond _ children => opensIn scope c children
  | .each items children =>
    (items, c.next.1 :: scope) :: opensIn (c.next.1 :: scope) (c.after 1) children

/-- The loops that nodes open, in the order of the document. -/
def opensIn (scope : Scope) (c : LoopCounter) : List Node → List (String × Scope)
  | [] => []
  | n :: ns => n.opens scope c ++ opensIn scope (c.after n.loops) ns

end

/-! ## Spots -/

/-- A spot in a template: the node there, and where the nodes around it are, the innermost first.
Where a spot is tells how many spots come before it in the document. -/
structure Spot where
  node : Node
  around : List Nat

mutual

/-- The spots of a node, which is somewhere itself, in the order of the document. -/
def Node.spots (i : Nat) (around : List Nat) : Node → List Spot
  | .text value => [⟨.text value, around⟩]
  | .variable expression => [⟨.variable expression, around⟩]
  | .raw expression => [⟨.raw expression, around⟩]
  | .cond condition children =>
    ⟨.cond condition children, around⟩ :: spotsIn (i + 1) (i :: around) children
  | .each items children =>
    ⟨.each items children, around⟩ :: spotsIn (i + 1) (i :: around) children
  | .foreign typeName => [⟨.foreign typeName, around⟩]

/-- The spots of nodes, the first of which is somewhere. -/
def spotsIn (i : Nat) (around : List Nat) : List Node → List Spot
  | [] => []
  | n :: ns => n.spots i around ++ spotsIn (i + (n.spots i around).length) around ns

end

/-- The spots of a tree, in the order of the document. -/
def Tree.spots (t : Tree) : List Spot := spotsIn 0 [] t.children

/-- The nodes in a node. -/
def Node.children : Node → List Node
  | .cond _ children | .each _ children => children
  | .text _ | .variable _ | .raw _ | .foreign _ => []

namespace Spot

/-- A spot whose node is in the node of another spot, and which has around it what is around the
other, and the other. -/
def IsInside (ps : List Spot) (q : Spot) : Prop :=
  ∃ i r, ps[i]? = some r ∧ q.around = i :: r.around ∧ q.node ∈ r.node.children

/-- Whether a loop is at a spot. -/
def isLoop (q : Spot) : Bool := q.node matches .each ..

/-- Whether a loop is somewhere among spots. -/
def isLoopAt (ps : List Spot) (i : Nat) : Bool := ps[i]?.any isLoop

/-- The number of the loop that is somewhere among spots: loops are counted in the order of the
document. -/
def number (ps : List Spot) (i : Nat) : Nat := (ps.take (i + 1)).countP isLoop

/-- The numbers of the loops among those that are somewhere. -/
def numbers (ps : List Spot) (around : List Nat) : List Nat :=
  (around.filter (isLoopAt ps)).map (number ps)

/-- The scope that such loops make. -/
def scopeOf (ps : List Spot) (around : List Nat) : Scope :=
  (numbers ps around).map (LoopNames.numbered loopLead)

/-- What is read at a spot: the text of its node, in the scope of the loops around it. -/
def reads (ps : List Spot) (q : Spot) : List Occurrence :=
  match q.node with
  | .text _ => []
  | .variable expression | .raw expression => [.access (scopeOf ps q.around) expression]
  | .cond condition _ => [.condition (scopeOf ps q.around) condition]
  | .each items _ => [.access (scopeOf ps q.around) items]
  | .foreign typeName => [.foreign typeName]

/-- The loop that is opened at a spot: what it goes through, and the scope of its own nodes, which
are inside of it, too. -/
def opens (ps : List Spot) : Spot × Nat → List (String × Scope)
  | (⟨.each items _, around⟩, i) => [(items, scopeOf ps (i :: around))]
  | _ => []

/-- A counter of loops behind the spots before one. -/
def counterAt (ps : List Spot) (i : Nat) : LoopCounter := { opened := (ps.take i).countP isLoop }

variable {ps qs rs : List Spot} {q : Spot} {i : Nat} {around : List Nat}

/-- Of spots that are behind each other the later ones are behind the earlier ones. -/
theorem prefix_drop_of_append (h : qs ++ rs <+: ps.drop i) :
    qs <+: ps.drop i ∧ rs <+: ps.drop (i + qs.length) := by
  refine ⟨(List.prefix_append qs rs).trans h, ?_⟩
  obtain ⟨rest, hrest⟩ := h
  refine ⟨rest, ?_⟩
  rw [← List.drop_drop, ← hrest, List.append_assoc, List.drop_left]

/-- A spot, and the spots behind it. -/
theorem prefix_drop_of_cons (h : q :: qs <+: ps.drop i) :
    [q] <+: ps.drop i ∧ qs <+: ps.drop (i + 1) :=
  prefix_drop_of_append (show [q] ++ qs <+: ps.drop i from h)

/-- The counter behind spots has counted their loops. -/
theorem counterAt_add (h : qs <+: ps.drop i) :
    counterAt ps (i + qs.length) = (counterAt ps i).after (qs.countP isLoop) := by
  have htake : ps.take (i + qs.length) = ps.take i ++ qs := by
    rw [List.take_add, ← List.prefix_iff_eq_take.1 h]
  rw [counterAt, htake, List.countP_append]
  rfl

/-- The spot that is first there. -/
theorem getElem?_of_prefix (h : q :: qs <+: ps.drop i) : ps[i]? = some q := by
  obtain ⟨rest, hrest⟩ := h
  rw [← Nat.add_zero i, ← List.getElem?_drop, ← hrest]
  rfl

/-- A node that is no loop does not matter for the scope of what is in it. -/
theorem scopeOf_cons_of_not_isLoop (h : q :: qs <+: ps.drop i) (hq : q.isLoop = false) :
    scopeOf ps (i :: around) = scopeOf ps around := by
  rw [scopeOf, numbers, List.filter_cons_of_neg]
  · rfl
  · rw [isLoopAt, getElem?_of_prefix h, Option.any_some, hq]
    exact Bool.false_ne_true

/-- What is in a loop has the names in its scope that the counter gives to the loop. -/
theorem scopeOf_cons_of_isLoop (h : q :: qs <+: ps.drop i) (hq : q.isLoop = true) :
    scopeOf ps (i :: around) = (counterAt ps i).next.1 :: scopeOf ps around := by
  have hnumber : number ps i = (counterAt ps i).opened + 1 := by
    have hnext := counterAt_add (prefix_drop_of_cons h).1
    rw [List.countP_singleton, hq] at hnext
    exact congrArg LoopCounter.opened hnext
  rw [scopeOf, numbers, List.filter_cons_of_pos, List.map_cons, List.map_cons, hnumber]
  · rfl
  · rw [isLoopAt, getElem?_of_prefix h, Option.any_some, hq]

end Spot

open Spot

mutual

/-- The spots of a node are the node itself and spots in it. -/
theorem Node.eq_or_isInside {ps : List Spot} {i : Nat} {around : List Nat} : (n : Node) →
    n.spots i around <+: ps.drop i → ∀ q ∈ n.spots i around, q = ⟨n, around⟩ ∨ q.IsInside ps
  | .text _, _ | .variable _, _ | .raw _, _ | .foreign _, _ => fun q hq =>
      .inl (List.mem_singleton.1 hq)
  | .cond _ children, h | .each _ children, h => by
      have hnode := getElem?_of_prefix h
      have hchildren := (prefix_drop_of_cons h).2
      rw [Node.spots, List.forall_mem_cons]
      refine ⟨.inl rfl, fun q hq => .inr ?_⟩
      obtain ⟨hq, hmem⟩ | hin := mem_or_isInside_spotsIn children hchildren q hq
      · exact ⟨i, _, hnode, hq, hmem⟩
      · exact hin

theorem mem_or_isInside_spotsIn {ps : List Spot} {i : Nat} {around : List Nat} : (ns : List Node) →
    spotsIn i around ns <+: ps.drop i →
    ∀ q ∈ spotsIn i around ns, q.around = around ∧ q.node ∈ ns ∨ q.IsInside ps
  | [], _ => nofun
  | n :: ns, h => by
      obtain ⟨hhead, htail⟩ := prefix_drop_of_append h
      rw [spotsIn, List.forall_mem_append]
      constructor
      · intro q hq
        obtain rfl | hin := n.eq_or_isInside hhead q hq
        · exact .inl ⟨rfl, List.mem_cons_self⟩
        · exact .inr hin
      · intro q hq
        obtain ⟨hq, hmem⟩ | hin := mem_or_isInside_spotsIn ns htail q hq
        · exact .inl ⟨hq, List.mem_cons_of_mem n hmem⟩
        · exact .inr hin

end

/-- A spot of a tree is that of a node of the tree itself, with nothing around it, or inside of
another spot. -/
theorem Tree.mem_or_isInside (t : Tree) :
    ∀ q ∈ t.spots, q.around = [] ∧ q.node ∈ t.children ∨ q.IsInside t.spots :=
  mem_or_isInside_spotsIn t.children (List.prefix_refl t.spots)

mutual

/-- What is around the spots of a node comes before them. -/
theorem Node.lt_of_mem_around {i : Nat} {around : List Nat} (haround : ∀ j ∈ around, j < i) :
    (n : Node) → ∀ x ∈ (n.spots i around).zipIdx i, ∀ j ∈ x.1.around, j < x.2
  | .text _ | .variable _ | .raw _ | .foreign _ => List.forall_mem_singleton.2 haround
  | .cond _ children | .each _ children => by
      rw [Node.spots, List.zipIdx_cons, List.forall_mem_cons]
      refine ⟨haround, lt_of_mem_around_spotsIn ?_ children⟩
      rw [List.forall_mem_cons]
      exact ⟨Nat.lt_succ_self i, fun j hj => Nat.lt_succ_of_lt (haround j hj)⟩

theorem lt_of_mem_around_spotsIn {i : Nat} {around : List Nat} (haround : ∀ j ∈ around, j < i) :
    (ns : List Node) → ∀ x ∈ (spotsIn i around ns).zipIdx i, ∀ j ∈ x.1.around, j < x.2
  | [] => List.forall_mem_nil _
  | n :: ns => by
      rw [spotsIn, List.zipIdx_append, List.forall_mem_append]
      refine ⟨n.lt_of_mem_around haround, lt_of_mem_around_spotsIn (fun j hj => ?_) ns⟩
      exact Nat.lt_add_right _ (haround j hj)

end

/-- What is around a spot of a tree comes before it. -/
theorem Tree.lt_of_mem_around (t : Tree) :
    ∀ x ∈ t.spots.zipIdx, ∀ j ∈ x.1.around, j < x.2 :=
  lt_of_mem_around_spotsIn (List.forall_mem_nil _) t.children

mutual

/-- Every loop of a node is at a spot of it. -/
theorem Node.countP_spots (i : Nat) (around : List Nat) : (n : Node) →
    (n.spots i around).countP isLoop = n.loops
  | .text _ | .variable _ | .raw _ | .foreign _ => rfl
  | .cond _ children => countP_spotsIn (i + 1) (i :: around) children
  | .each _ children => by
      rw [Node.spots, List.countP_cons, countP_spotsIn, Node.loops]
      rfl

theorem countP_spotsIn (i : Nat) (around : List Nat) : (ns : List Node) →
    (spotsIn i around ns).countP isLoop = loopsOf ns
  | [] => rfl
  | n :: ns => by
      rw [spotsIn, List.countP_append, n.countP_spots, countP_spotsIn, loopsOf]

end

mutual

/-- What is read in a node and what it opens is read and opened at its spots. -/
theorem Node.spots_spec {ps : List Spot} {i : Nat} {around : List Nat} : (n : Node) →
    n.spots i around <+: ps.drop i →
    n.occurrences (scopeOf ps around) (counterAt ps i) =
        (n.spots i around).flatMap (Spot.reads ps) ∧
      n.opens (scopeOf ps around) (counterAt ps i) =
        ((n.spots i around).zipIdx i).flatMap (Spot.opens ps)
  | .text _, _ | .variable _, _ | .raw _, _ | .foreign _, _ => ⟨rfl, rfl⟩
  | .cond condition children, h => by
      -- a condition takes one spot and opens no loop: its children come next, in the same scope
      obtain ⟨hhead, hchildren⟩ := prefix_drop_of_cons h
      obtain ⟨hreads, hopens⟩ := spotsIn_spec children hchildren
      have hcounter : counterAt ps (i + 1) = counterAt ps i := counterAt_add hhead
      rw [hcounter, scopeOf_cons_of_not_isLoop h rfl] at hreads hopens
      exact ⟨congrArg (_ :: ·) hreads, hopens⟩
  | .each items children, h => by
      obtain ⟨hhead, hchildren⟩ := prefix_drop_of_cons h
      obtain ⟨hreads, hopens⟩ := spotsIn_spec children hchildren
      have hcounter : counterAt ps (i + 1) = (counterAt ps i).after 1 := counterAt_add hhead
      have hscope : scopeOf ps (i :: around) = _ := scopeOf_cons_of_isLoop h rfl
      rw [hcounter, hscope] at hreads hopens
      -- a loop is opened at its spot, and its children are in the scope that it adds to
      refine ⟨congrArg (_ :: ·) hreads, ?_⟩
      rw [Node.opens, hopens, ← hscope]
      rfl

theorem spotsIn_spec {ps : List Spot} {i : Nat} {around : List Nat} : (ns : List Node) →
    spotsIn i around ns <+: ps.drop i →
    occurrencesIn (scopeOf ps around) (counterAt ps i) ns =
        (spotsIn i around ns).flatMap (Spot.reads ps) ∧
      opensIn (scopeOf ps around) (counterAt ps i) ns =
        ((spotsIn i around ns).zipIdx i).flatMap (Spot.opens ps)
  | [], _ => ⟨rfl, rfl⟩
  | n :: ns, h => by
      obtain ⟨hhead, htail⟩ := prefix_drop_of_append h
      obtain ⟨hreads, hopens⟩ := n.spots_spec hhead
      -- the other nodes begin where the loops of the first one have been counted
      obtain ⟨hreads', hopens'⟩ := spotsIn_spec ns htail
      rw [counterAt_add hhead, n.countP_spots] at hreads' hopens'
      constructor
      · rw [occurrencesIn, spotsIn, List.flatMap_append, hreads, hreads']
      · rw [opensIn, spotsIn, List.zipIdx_append, List.flatMap_append, hopens, hopens']

end

/-- The texts of a tree are those of its spots. -/
theorem Tree.occurrences_eq (t : Tree) : t.occurrences = t.spots.flatMap (Spot.reads t.spots) :=
  (spotsIn_spec t.children (List.prefix_refl t.spots)).1

/-- The loops of a tree are those at its spots. -/
theorem Tree.opens_eq (t : Tree) :
    opensIn [] {} t.children = t.spots.zipIdx.flatMap (Spot.opens t.spots) :=
  (spotsIn_spec t.children (List.prefix_refl t.spots)).2

end Curly
