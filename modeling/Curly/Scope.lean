/-!
The names that loops bind in generated code. Every loop has names of its own; the loops around a
place form a scope, the innermost first.
-/

namespace Curly

/-- The names that one loop binds: its item, its index, and the items that it goes through. -/
structure LoopNames where
  item : String
  index : String
  items : String
  deriving DecidableEq, Inhabited

/-- The names of the loop with a number. -/
def LoopNames.numbered (lead : String) (n : Nat) : LoopNames :=
  ⟨s!"{lead}item_{n}", s!"{lead}index_{n}", s!"{lead}items_{n}"⟩

/-- The three names of a loop. -/
def LoopNames.all (l : LoopNames) : List String := [l.item, l.index, l.items]

/-- The loops around a place, the innermost first. -/
abbrev Scope := List LoopNames

/-- Every name that the loops around a place bind. -/
def Scope.boundNames (s : Scope) : List String := s.flatMap LoopNames.all

/-- What stands in front of the names of loops in generated code. -/
def loopLead : String := "_"

/-- The loops that have got their names: how many there are, and what stands in front of the
names. -/
structure LoopCounter where
  lead : String := loopLead
  opened : Nat := 0
  deriving DecidableEq, Inhabited

/-- The names of the next loop. -/
def LoopCounter.next (c : LoopCounter) : LoopNames × LoopCounter :=
  (.numbered c.lead (c.opened + 1), { c with opened := c.opened + 1 })

end Curly
