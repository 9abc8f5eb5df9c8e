import Curly.Machine
import Curly.Value.Index

/-!
Iteration: going through the elements of a value, one after the other, until the one that goes
through them has enough.
-/

namespace Curly.Eval

/-- How many items are taken from an iterator at most. -/
def itemLimit : Nat := Nat.pow 2 40

/-- The iterator over elements at hand. -/
def iterOf? : Value → Option Iter
  | .range start stop step =>
    some (.numbers start step (Value.rangeLength start stop step))
  | v => v.elements?.map .items

/-- An iterator over the elements of a value: the value itself, if it is one. -/
def iterator (v : Value) : Eval Nat :=
  match v with
  | .iterator id _ => return id
  | v =>
    match iterOf? v with
    | some it => newIterator it
    | none => throw (.notIterable v.typeName)

/-- Goes through elements at hand. -/
def foldItems (f : β → Value → Eval (ForInStep β)) (acc : β) : List Value → Eval β
  | [] => return acc
  | v :: vs => do
    match ← f acc v with
    | .done b => return b
    | .yield b => foldItems f b vs

/-- Goes through numbers, `step` apart. -/
def foldNumbers (step : Int) (f : β → Value → Eval (ForInStep β)) :
    (count : Nat) → (start : Int) → β → Eval β
  | 0, _, acc => return acc
  | count + 1, start, acc => do
    match ← f acc (.int start) with
    | .done b => return b
    | .yield b => foldNumbers step f count (start + step) b

/-- Goes through the items of an iterator. -/
def foldNext (next : Eval (Option Value)) (f : β → Value → Eval (ForInStep β)) :
    (fuel : Nat) → β → Eval β
  | 0, _ => throw .tooDeep
  | fuel + 1, acc => do
    match ← next with
    | none => return acc
    | some v =>
      match ← f acc v with
      | .done b => return b
      | .yield b => foldNext next f fuel b

/-- Goes through the elements of a value. -/
def fold (h : Hooks) (v : Value) (acc : β) (f : β → Value → Eval (ForInStep β)) : Eval β :=
  match v with
  | .iterator id _ => foldNext (h.next id) f itemLimit acc
  | .range start stop step =>
    foldNumbers step f (Value.rangeLength start stop step) start acc
  | v =>
    match v.elements? with
    | some vs => foldItems f acc vs
    | none => throw (.notIterable v.typeName)

/-- The elements of a value. -/
def elements (h : Hooks) (v : Value) : Eval (List Value) :=
  match v with
  | .iterator .. => do
    let backwards ← fold h v [] fun vs v => return .yield (v :: vs)
    return backwards.reverse
  | v => do
    ofExcept v.checkRoom
    match v.elements? with
    | some vs => return vs
    | none => throw (.notIterable v.typeName)

/-- Whether a value contains another. -/
def contains (h : Hooks) (container v : Value) : Eval Bool :=
  match container.contains? v with
  | some r => ofExcept r
  | none => fold h container false fun _ w =>
    return if w.equal v then .done true else .yield false

end Curly.Eval
