import Curly.Value.Order

/-!
Sorting: a stable sort that only asks whether one value is less than another. What values are
compared, and in which order, shows where some pair has no order: first come neighbours, for as long
as they rise or fall, then every further value is placed by bisection.
-/

namespace Curly.Value

/-- Values with what they are sorted by. -/
abbrev Keyed := Value × Value

/-- Whether the key of one value is less than that of another. -/
def isLess (a b : Keyed) : Except Fault Bool := order .lt a.1 b.1

/-- How many values at the front of a list go on rising, or falling, after one that belongs to
them. -/
def runLength (falling : Bool) (last : Keyed) : List Keyed → Except Fault Nat
  | [] => .ok 0
  | v :: vs => do
    if (← isLess v last) == falling then return (← runLength falling v vs) + 1 else return 0

/-- Where a value belongs among sorted ones, after those that equal it. -/
def place (sorted : Array Keyed) (v : Keyed) : (fuel low high : Nat) → Except Fault Nat
  | 0, low, _ => .ok low
  | fuel + 1, low, high =>
    if low < high then do
      let middle := low + (high - low) / 2
      match sorted[middle]? with
      | some w =>
        if ← isLess v w then place sorted v fuel low middle
        else place sorted v fuel (middle + 1) high
      | Option.none => return low
    else .ok low

/-- Places a value among sorted ones. -/
def insertSorted (sorted : Array Keyed) (v : Keyed) : Except Fault (Array Keyed) := do
  let i ← place sorted v (sorted.size + 1) 0 sorted.size
  return sorted.insertIdxIfInBounds i v

/-- Sorts values by their keys. -/
def sortKeyed (vs : List Keyed) : Except Fault (List Keyed) := do
  match vs with
  | [] | [_] => return vs
  | a :: b :: rest =>
    let falling ← isLess b a
    let n := (← runLength falling b rest) + 2
    let run := vs.take n
    let sorted := (if falling then run.reverse else run).toArray
    return (← (vs.drop n).foldlM insertSorted sorted).toList

/-- Sorts values by their keys, the greatest first if wanted; equal ones keep their order. -/
def sort (reversed : Bool) (vs : List Keyed) : Except Fault (List Value) := do
  let vs := if reversed then vs.reverse else vs
  let sorted ← sortKeyed vs
  let values := sorted.map (·.2)
  return if reversed then values.reverse else values

end Curly.Value
