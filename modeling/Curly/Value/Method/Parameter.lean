import Curly.Arguments
import Curly.Value.Attribute
import Curly.Value.Index

/-!
Parameters of methods: bounds of a search, widths, numbers of cuts, and texts.
-/

namespace Curly.Value

/-- The part of a list between two bounds, with the place where it begins; none if it would begin
after its end. -/
def window? (n : Nat) (lower upper : Option Int) (s : List α) : Option (Nat × List α) :=
  let (start, stop) := sliceBounds n lower upper 1
  let first : Int := match lower with
    | some i => if n < i then i else start
    | Option.none => start
  if stop < first then Option.none
  else some (start.toNat, (s.take stop.toNat).drop start.toNat)

/-- An argument, or nothing. -/
def argument (args : List Value) (i : Nat) : Value := args[i]?.getD .none

/-- The value of an optional parameter. -/
def option? (args : List (Option Value)) (i : Nat) : Option Value := args[i]?.join

/-- The text that a parameter takes. -/
def parameterText (function parameter : String) : Value → Except Fault String
  | .str s => .ok s
  | v => .error (.parameterText function parameter v.givenName)

/-- The text that an optional parameter takes. -/
def optionText? (function parameter : String) : Option Value → Except Fault (Option String)
  | some v => some <$> v.parameterText function parameter
  | Option.none => .ok Option.none

/-- A bound that may be missing. -/
def boundOf? : Option Value → Except Fault (Option Int)
  | Option.none => .ok Option.none
  | some v => v.bound?

/-- The bounds of a search, after what is searched for. -/
def searchBounds (args : List Value) : Except Fault (Option Int × Option Int) := do
  let lower ← boundOf? args[1]?
  return (lower, ← boundOf? args[2]?)

/-- The size that a value gives. -/
def size (v : Value) : Except Fault Int := do
  let n ← v.index
  if n < -indexLimit - 1 ∨ indexLimit < n then throw .lengthTooLarge else return n

/-- The count that a value gives, or else a usual one. -/
def countOr (usual : Int) : Option Value → Except Fault Int
  | Option.none => .ok usual
  | some v => do
    let n ← v.index
    if n < -countLimit - 1 ∨ countLimit < n then throw .countTooLarge else return n

/-- A number of cuts or replacements; a negative one sets no limit. -/
def limitOf (most : Nat) : Option Value → Except Fault Nat
  | Option.none => .ok most
  | some v => do
    let n ← v.size
    return if n < 0 then most else n.toNat

/-- The elements of a value, which must have them at hand. -/
def elementsOr (v : Value) : Except Fault (List Value) :=
  match v.elements? with
  | some items => .ok items
  | Option.none => .error (.notIterable v.typeName)

end Curly.Value
