import Curly.Builtin
import Curly.Text.Search
import Curly.Value.Attribute
import Curly.Value.Index
import Curly.Value.Order

/-!
Looking up: how generated code reads the data. A dotted path is followed key by key, and whatever
is missing on the way gives nothing; a free name is a key of the data, a literal or a built-in name;
comparisons of values that have no order do not hold.
-/

namespace Curly.Value

/-- The item of an array at a position, or nothing. -/
def itemOf (v : Value) (i : Nat) : Value :=
  match v with
  | .range start stop step => (rangeAt start stop step i).toOption.getD .none
  | v => ((v.items?.getD [])[i]?).getD .none

/-- What stands under a key of a value: a dictionary has keys, an array positions, everything else
attributes. What is missing is nothing. -/
def child (v : Value) (key : String) : Except Fault Value :=
  match v with
  | .dict entries => .ok ((field? key entries).getD .none)
  | v =>
    if v.isArray then
      let digits := key.toList
      if !digits.isEmpty && digits.all Text.Unicode.isDecimal then
        match Reading.int digits with
        | .ok i => do
          if i < (← v.length) then return v.itemOf i.toNat else return .none
        -- Digits that are too many to read are a fault, not a position that is missing.
        | .tooLong n => .error (.numberTooLong (some n))
        | .malformed => .ok .none
      else .ok .none
    else .ok ((v.attr key).toOption.getD .none)

/-- Follows keys; what holds no values has none under any key. -/
def follow (v : Value) : List String → Except Fault Value
  | [] => .ok v
  | key :: keys =>
    if v.isComposite then do (← v.child key).follow keys else .ok .none

/-- The keys of a dotted path. -/
def pathKeys (path : String) : List String :=
  (Text.splitAll ['.'] path.toList).map String.ofList

/-- What a dotted path leads to. The empty path leads nowhere. -/
def lookup (v : Value) (path : String) : Except Fault Value :=
  if !v.isComposite then .ok .none
  else if path.isEmpty then .ok v
  else v.follow (pathKeys path)

/-- Names of literals that are no built-in names. -/
def literals : List (String × Value) :=
  [("true", .bool true), ("false", .bool false), ("null", .none), ("undefined", .none)]

/-- What a free name stands for: a key of the data, a literal, a built-in name, or else nothing. -/
def resolve (context : Value) (name : String) : Value :=
  let own := match context with
    | .dict entries => field? name entries
    | _ => Option.none
  match own with
  | some v => v
  | Option.none => ((literals.lookup name).or (Builtin.find? name)).getD .none

/-- The ordering that a word names. -/
def orderingNamed? : String → Option CompareOp
  | "gt" => some .gt
  | "gte" => some .ge
  | "lt" => some .lt
  | "lte" => some .le
  | _ => Option.none

/-- Whether the ordering that a value names holds between two others; it holds between none that
have no order. -/
def compareBy (op a b : Value) : Except Fault Bool :=
  let named := match op with
    | .str s => orderingNamed? s
    | _ => Option.none
  match named with
  | some op =>
    match order op a b with
    | .ok r => .ok r
    -- Only that two values have no order makes the comparison false; other faults go through.
    | .error f => if f.faultClass = .typeError then .ok false else .error f
  | Option.none =>
    match op.unhashable? with
    | some _ => .ok false
    | Option.none => do throw (.missingKey (← op.written))

end Curly.Value
