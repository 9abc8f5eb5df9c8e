import Curly.Builtin
import Curly.Eval.Iteration
import Curly.Value.Conversion
import Curly.Value.Method
import Curly.Value.Sorting

/-!
Built-in functions and types: what calling them gives.
-/

namespace Curly.Eval

/-- Refuses keywords that a function does not know, and more of them than it knows. -/
def checkKeywords (function : String) (known : List String) (a : Arguments) : Eval Unit := do
  let n := a.keywords.length
  if known.length < n then throw (.arity function (.atMostKeywords known.length n))
  match a.keywords.find? fun k => !known.contains k.1 with
  | some k => throw (.arity function (.unknownKeyword k.1))
  | none => return

/-- The function that values are compared by, if there is one. -/
def keyFunction? (a : Arguments) : Option Value :=
  match a.keywords.lookup "key" with
  | some .none => none
  | f => f

/-- What a value is compared by. -/
def keyOf (h : Hooks) (key? : Option Value) (v : Value) : Eval Value :=
  match key? with
  | some f => h.call f (.ofList [v])
  | none => return v

/-- The first of the greatest, or least, of several values. -/
def extreme (h : Hooks) (name : String) (op : CompareOp) (a : Arguments) : Eval Value := do
  let source ← match a.positional with
    | [] => throw (.arity name (.expectedAtLeast 1 0))
    | [v] => pure v
    | vs => pure (.tuple vs)
  checkKeywords name ["key", "default"] a
  let fallback := a.keywords.lookup "default"
  if 1 < a.count && fallback.isSome then throw (.defaultWithSeveral name)
  let key? := keyFunction? a
  let best ← fold h source none fun (best : Option Value.Keyed) v => do
    let k ← keyOf h key? v
    match best with
    | none => return .yield (some (k, v))
    | some (k', v') =>
      -- Only what is strictly better takes the place of the best one, so of equal ones the first
      -- stays.
      let better ← ofExcept (Value.order op k k')
      return .yield (some (if better then (k, v) else (k', v')))
  match best, fallback with
  | some (_, v), _ => return v
  | none, some v => return v
  | none, none => throw (.emptySequence name)

/-- The sum of values. -/
def sum (h : Hooks) (a : Arguments) : Eval Value := do
  if 2 < a.count + a.keywords.length then throw (a.excess "sum" 2)
  match a.positional with
  | [] => throw (.arity "sum" (.atLeastPositional 1 0))
  | source :: more =>
    checkKeywords "sum" ["start"] a
    let start := (more.head?.or (a.keywords.lookup "start")).getD (.int 0)
    let id ← iterator source
    -- Refused at once, also where there is nothing to add.
    match start with
    | .str _ => throw .sumOfTexts
    | .bytes _ => throw .sumOfBytes
    | _ => fold h (.iterator id "") start fun total v => do
      return .yield (← ofExcept (Value.operate .add total v))

/-- Values in order. -/
def sorted (h : Hooks) (a : Arguments) : Eval Value := do
  match ← ofExcept (a.expect "sorted" 1 1) with
  | [source] =>
    let vs ← elements h source
    checkKeywords "sort" ["key", "reverse"] a
    let reversed ← match a.keywords.lookup "reverse" with
      | some v => pure ((← ofExcept v.index) != 0)
      | none => pure false
    let key? := keyFunction? a
    let keyed ← vs.mapM fun v => return (← keyOf h key? v, v)
    return .list (← ofExcept (Value.sort reversed keyed))
  | _ => throw (.unsupported "sorted")

/-- Whether a test of truth holds of some value, or of all. -/
def anyIs (h : Hooks) (truth : Bool) (v : Value) : Eval Bool :=
  fold h v false fun _ w => return if w.isTrue == truth then .done true else .yield false

/-- Calls a built-in function. -/
def callBuiltin (h : Hooks) (name : String) (a : Arguments) : Eval Value := do
  match name with
  | "abs" => ofExcept do (← a.single name).absolute
  | "all" => return .bool !(← anyIs h false (← ofExcept (a.single name)))
  | "any" => return .bool (← anyIs h true (← ofExcept (a.single name)))
  | "len" => return .int (← ofExcept do (← a.single name).length)
  | "max" => extreme h name .gt a
  | "min" => extreme h name .lt a
  | "repr" => return .str (← ofExcept do (← a.single name).written)
  | "round" =>
    match ← ofExcept (a.named name ["number", "ndigits"] 1 2) with
    | [some v, digits] => ofExcept (v.round digits)
    | _ => throw (.unsupported name)
  | "sorted" => sorted h a
  | "sum" => sum h a
  | _ => throw (.unsupported name)

/-- The text of a value, or of bytes in an encoding. -/
def textOf (a : Arguments) : Except Fault Value := do
  let args ← a.optional "str" ["object", "encoding", "errors"]
  let encoding ← Value.optionText? "str" "encoding" (Value.option? args 1)
  let errors ← Value.optionText? "str" "errors" (Value.option? args 2)
  match Value.option? args 0 with
  | none => return .str ""
  | some v =>
    if encoding.isNone && errors.isNone then return .str (← v.text)
    match v with
    | .bytes b => Value.decodeIn (encoding.getD "utf-8") (.ofName (errors.getD "strict")) b
    | .str _ => throw .decodingText
    | v => throw (.decodingNeedsBytes v.typeName)

/-- The only argument of a type, if there is one. -/
def optionalArgument (name : String) (a : Arguments) : Except Fault (Option Value) := do
  a.noKeywords name
  return (← a.expect name 0 1).head?

/-- A value as an integer, in a base if one is given. -/
def integerOf (a : Arguments) : Except Fault Value := do
  let n := a.count + a.keywords.length
  if 2 < n then throw (a.excess "int" 2)
  match a.keywords.find? (·.1 != "base") with
  | some k => throw (.arity "int" (.unknownKeyword k.1))
  | none =>
    match a.positional, a.keywords.lookup "base" with
    | [], none => return .int 0
    | [], some _ => throw .textArgumentMissing
    | [v], none => v.toInteger
    | [v], some base | v :: base :: _, _ => v.toIntegerIn base

/-- A range of numbers. -/
def rangeOf (a : Arguments) : Except Fault Value := do
  a.noKeywords "range"
  let bounds ← (← a.expect "range" 1 3).mapM Value.index
  match bounds with
  | [stop] => return .range 0 stop 1
  | [start, stop] => return .range start stop 1
  | [start, stop, step] => if step = 0 then throw .zeroRangeStep else return .range start stop step
  | _ => throw (.unsupported "range")

/-- What is counted, and from where. Two keywords may come in either order. -/
def countedOf (a : Arguments) : Except Fault (Value × Option Value) := do
  let function := "enumerate"
  let check (expected given : String) : Except Fault Unit :=
    if given == expected then .ok () else .error (.arity function (.unknownKeyword given))
  match a.positional, a.keywords with
  | [v], [] => return (v, none)
  | [v, start], [] => return (v, some start)
  | [v], [(k, start)] =>
    check "start" k
    return (v, some start)
  | [], [(k, v)] =>
    check "iterable" k
    return (v, none)
  | [], [("start", start), (k, v)] =>
    check "iterable" k
    return (v, some start)
  | [], [(k, v), (l, start)] =>
    check "iterable" k
    check "start" l
    return (v, some start)
  | [], _ => throw (.arity function (.missingArgument "iterable" none))
  | _, _ => throw (a.excess function 2)

/-- An iterator that counts what it goes through. -/
def enumerated (a : Arguments) : Eval Value := do
  let (v, start) ← ofExcept (countedOf a)
  let count ← match start with
    | some n => ofExcept n.index
    | none => pure 0
  let inner ← iterator v
  return .iterator (← newIterator (.counted count inner)) "enumerate"

/-- An iterator that goes through several values at a time. -/
def zipped (a : Arguments) : Eval Value := do
  checkKeywords "zip" ["strict"] a
  let strict := ((a.keywords.lookup "strict").map Value.isTrue).getD false
  let inner ← a.positional.mapM iterator
  return .iterator (← newIterator (.zipped strict inner)) "zip"

/-- An iterator that goes through a sequence backwards. -/
def reversed (a : Arguments) : Eval Value := do
  ofExcept (a.noKeywords "reversed")
  match ← ofExcept (a.expect "reversed" 1 1) with
  | [v] =>
    let iteratorOver (typeName : String) (it : Iter) : Eval Value := do
      return .iterator (← newIterator it) typeName
    match v, v.elements? with
    | .range start stop step, _ =>
      let n := Value.rangeLength start stop step
      iteratorOver "range_iterator" (.numbers (start + ((n : Int) - 1) * step) (-step) n)
    | .list vs, _ => iteratorOver "list_reverseiterator" (.items vs.reverse)
    | .dict _, some vs => iteratorOver "dict_reversekeyiterator" (.items vs.reverse)
    | .set _, _ => throw (.notReversible v.typeName)
    | _, some vs => iteratorOver "reversed" (.items vs.reverse)
    | _, none => throw (.notReversible v.typeName)
  | _ => throw (.unsupported "reversed")

/-- The elements of the argument of a type, if there is one. -/
def collected (h : Hooks) (name : String) (a : Arguments) : Eval (List Value) := do
  match ← ofExcept (optionalArgument name a) with
  | some v => elements h v
  | none => return []

/-- Adds a key to a set. -/
def addKey (keys : List Value) (v : Value) : Except Fault (List Value) :=
  match v.unhashable? with
  | some t => .error (.unhashable t)
  | none => .ok (Value.adjoin v keys)

/-- Calls a type. -/
def callType (h : Hooks) (name : String) (a : Arguments) : Eval Value := do
  match name with
  | "bool" => return .bool (((← ofExcept (optionalArgument name a)).map Value.isTrue).getD false)
  | "enumerate" => enumerated a
  | "float" =>
    match ← ofExcept (optionalArgument name a) with
    | some v => ofExcept v.toFloat
    | none => return .float (.zero false)
  | "int" => ofExcept (integerOf a)
  | "list" => return .list (← collected h name a)
  | "range" => ofExcept (rangeOf a)
  | "reversed" => reversed a
  | "set" => return .set (← ofExcept ((← collected h name a).foldlM addKey []))
  | "str" => ofExcept (textOf a)
  | "tuple" => return .tuple (← collected h name a)
  | "zip" => zipped a
  | _ => throw (.unsupported name)

/-- Calls a method of the list that gathers the output. -/
def callOutputMethod (h : Hooks) (name : String) (a : Arguments) : Eval Value := do
  let v ← ofExcept (a.single (Value.output.typeName ++ "." ++ name))
  match name with
  | "append" => gather v
  | "extend" => fold h v () fun _ w => do return .yield (← gather w)
  | _ => throw (.unsupported name)
  return .none

/-- Calls a method of a value. -/
def callMethod (h : Hooks) (v : Value) (name : String) (a : Arguments) : Eval Value := do
  let isIterator : Value → Bool
    | .iterator .. => true
    | _ => false
  if Value.takesElements name && a.positional.any isIterator then
    let positional ← a.positional.mapM fun w =>
      if isIterator w then return .list (← elements h w) else pure w
    ofExcept (v.callMethod name { a with positional := positional })
  else ofExcept (v.callMethod name a)

/-- Calls a method of a type with a value of the type as first argument. -/
def callDescriptor (h : Hooks) (typeName name : String) (a : Arguments) : Eval Value := do
  match a.positional, Value.standIn? typeName name with
  | _, some v => callMethod h v name a
  | [], _ => throw (.arity (typeName ++ "." ++ name) .noReceiver)
  | v :: rest, _ =>
    if v.typeName == typeName || (typeName == "int" && v.typeName == "bool") then
      callMethod h v name { a with positional := rest }
    else throw (.wrongReceiver name typeName v.typeName)

end Curly.Eval
