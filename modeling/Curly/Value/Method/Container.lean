import Curly.Value.Method.Parameter

/-!
Methods of lists, tuples, ranges and sets. None changes its value.
-/

namespace Curly.Value

/-- Where a value stands in a list, between bounds. -/
def placeOf? (items : List Value) (args : List Value) : Except Fault (Option Nat) := do
  let strict (v : Value) : Except Fault (Option Int) := do
    match v.integer? with
    | some n => return some n
    | Option.none => throw .sliceIndicesStrict
  let bound (v : Option Value) : Except Fault (Option Int) :=
    (v.map strict).getD (.ok Option.none)
  let lower ← bound args[1]?
  let upper ← bound args[2]?
  let v := argument args 0
  match window? items.length lower upper items with
  | some (start, part) => return (part.findIdx? (equal · v)).map (start + ·)
  | Option.none => return Option.none

/-- Calls a method of a list or a tuple. -/
def callSequence (type : String) (items : List Value) (name : String) (a : Arguments) :
    Except Fault Value := do
  let function := type ++ "." ++ name
  match name with
  | "count" =>
    let v ← a.single function
    return .int (items.countP (equal · v))
  | "index" =>
    a.noKeywords function
    let args ← a.expect name 1 3
    match ← placeOf? items args with
    | some i => return .int i
    | Option.none =>
      if type == "tuple" then throw .notInTuple
      else throw (.notInList (← (argument args 0).written))
  | "copy" =>
    a.empty function
    return .list items
  | _ => throw (.unsupported function)

/-- Calls a method of a range. -/
def callRange (start stop step : Int) (name : String) (a : Arguments) : Except Fault Value := do
  let v ← a.single ("range." ++ name)
  let among := inRange start stop step v
  match name with
  | "count" => return .int (if among then 1 else 0)
  | _ =>
    match among, v.number? with
    | true, some (.int n) => return .int ((n - start) / step)
    | true, some (.float x) => return .int (((x.toRat?.getD 0).num - start) / step)
    | _, _ =>
      if v.integer?.isSome then throw (.notInRange (← v.written)) else throw .notInSequence

/-- The elements of a value, which must be hashable. -/
def keysOf (v : Value) : Except Fault (List Value) := do
  let items ← v.elementsOr
  match unhashableAmong? items with
  | some t => throw (.unhashable t)
  | Option.none => return items.foldl (fun found v => adjoin v found) []

/-- Calls a method of a set. -/
def callSet (items : List Value) (name : String) (a : Arguments) : Except Fault Value := do
  let function := "set." ++ name
  let isIn (vs : List Value) (v : Value) : Bool := vs.any (equal v ·)
  match name with
  | "copy" => a.empty function; return .set items
  | "union" =>
    a.noKeywords function
    let others ← a.positional.mapM keysOf
    return .set (others.flatten.foldl (fun found v => adjoin v found) items)
  | "intersection" =>
    a.noKeywords function
    let others ← a.positional.mapM keysOf
    return .set (items.filter fun v => others.all (isIn · v))
  | "difference" =>
    a.noKeywords function
    let others ← a.positional.mapM keysOf
    return .set (items.filter fun v => !others.any (isIn · v))
  | "symmetric_difference" =>
    let other ← (← a.single function).keysOf
    return .set (items.filter (!isIn other ·) ++ other.filter (!isIn items ·))
  | "issubset" => return .bool (items.all (isIn (← (← a.single function).keysOf)))
  | "issuperset" => return .bool ((← (← a.single function).keysOf).all (isIn items))
  | "isdisjoint" => return .bool (!(← (← a.single function).keysOf).any (isIn items))
  | _ => throw (.unsupported function)

end Curly.Value
