import Curly.Value.Equality

/-!
Loaded data: values as they come from a text. A dictionary that a text names can stand in several
places, and is one and the same in all of them: what is set in one place is set in the others, too.
So the dictionaries of loaded data have marks, and those with one mark are one dictionary.
-/

namespace Curly

/-- Values with marks on dictionaries. One without a mark stands in other places only together with
one around it that has a mark. -/
inductive Loaded
  | plain (value : Value)
  | list (items : List Loaded)
  | tuple (items : List Loaded)
  | dict (mark : Option Nat) (entries : List (Value × Loaded))
  deriving Inhabited

namespace Loaded

mutual

/-- The value, without marks. -/
def value : Loaded → Value
  | .plain v => v
  | .list items => .list (valuesOf items)
  | .tuple items => .tuple (valuesOf items)
  | .dict _ entries => .dict (entryValues entries)

/-- The values, without marks. -/
def valuesOf : List Loaded → List Value
  | [] => []
  | d :: ds => d.value :: valuesOf ds

/-- The entries, without marks. -/
def entryValues : List (Value × Loaded) → List (Value × Value)
  | [] => []
  | (k, d) :: es => (k, d.value) :: entryValues es

end

/-- Entries of values that have no marks. -/
def plainEntries (entries : List (Value × Value)) : List (Value × Loaded) :=
  entries.map fun (k, v) => (k, .plain v)

/-- The mark and the entries of a dictionary. -/
def dict? : Loaded → Option (Option Nat × List (Value × Loaded))
  | .dict mark entries => some (mark, entries)
  | .plain (.dict entries) => some (none, plainEntries entries)
  | _ => none

mutual

/-- The marks of all dictionaries. -/
def marks : Loaded → List Nat
  | .plain _ => []
  | .list items | .tuple items => marksOf items
  | .dict mark entries => mark.toList ++ entryMarks entries

/-- The marks of all dictionaries among items. -/
def marksOf : List Loaded → List Nat
  | [] => []
  | d :: ds => d.marks ++ marksOf ds

/-- The marks of all dictionaries in entries. -/
def entryMarks : List (Value × Loaded) → List Nat
  | [] => []
  | (_, d) :: es => d.marks ++ entryMarks es

end

mutual

/-- Makes every dictionary anew, from the innermost ones on. -/
def remake (f : Option Nat → List (Value × Loaded) → Loaded) : Loaded → Loaded
  | .plain v => .plain v
  | .list items => .list (remakeAll f items)
  | .tuple items => .tuple (remakeAll f items)
  | .dict mark entries => f mark (remakeEntries f entries)

/-- Makes every dictionary among items anew. -/
def remakeAll (f : Option Nat → List (Value × Loaded) → Loaded) : List Loaded → List Loaded
  | [] => []
  | d :: ds => d.remake f :: remakeAll f ds

/-- Makes every dictionary in entries anew. -/
def remakeEntries (f : Option Nat → List (Value × Loaded) → Loaded) :
    List (Value × Loaded) → List (Value × Loaded)
  | [] => []
  | (k, d) :: es => (k, d.remake f) :: remakeEntries f es

end

/-- A dictionary with a mark that is moved up. -/
def moveMark (n : Nat) (mark : Option Nat) (entries : List (Value × Loaded)) : Loaded :=
  .dict (mark.map (n + ·)) entries

/-- A dictionary in which the entries are changed if it has a mark. -/
def changeAt (mark : Nat) (f : List (Value × Loaded) → List (Value × Loaded))
    (found : Option Nat) (entries : List (Value × Loaded)) : Loaded :=
  .dict found (if found = some mark then f entries else entries)

/-- The first mark behind all those in entries. -/
def freshMark (entries : List (Value × Loaded)) : Nat :=
  (entryMarks entries).foldr (fun m n => max (m + 1) n) 0

end Loaded

end Curly
