import Curly.Expr
import Curly.Helper

/-!
Values: the data that a template is rendered with, and what its expressions compute from them.
Data are never changed by rendering, so a list is its elements and a dictionary its entries, in
the order of insertion. What has an identity, a function or an iterator, carries a number.
-/

namespace Curly

/-- Members that texts and arrays have in expressions besides the methods of their types. -/
inductive Member
  | split
  | join
  | slice
  | substring
  | charAt
  | indexOf
  | filter
  | map
  | includes
  deriving DecidableEq, Inhabited

/-- A scope at run time: the frame that holds its variables, their names, and whether it belongs
to a function or to a comprehension. -/
structure Binder where
  frame : Nat
  names : List String
  ofFunction : Bool
  deriving DecidableEq, Inhabited

/-- Where an expression is evaluated: the scopes around it, the innermost first, and what stands in
front of the names of the functions that it makes. -/
structure Env where
  binders : List Binder
  path : String
  deriving DecidableEq, Inhabited

/-- Values. -/
inductive Value
  | none
  | bool (value : Bool)
  | int (value : Int)
  | float (value : Double)
  | imaginary (value : Double)
  | str (value : String)
  | bytes (value : List UInt8)
  | list (items : List Value)
  | tuple (items : List Value)
  | set (items : List Value)
  | dict (entries : List (Value × Value))
  | range (start stop step : Int)
  /-- Fields with their values. -/
  | object (fields : List (String × Value))
  | ellipsis
  /-- The bounds and the step of a subscript. -/
  | slice (lower upper step : Value)
  /-- A lambda with the values of its defaults. -/
  | closure (id : Nat) (name : String) (params : List Param) (body : Expr)
      (defaults : List (String × Value)) (env : Env)
  | helper (which : Helper)
  | builtin (name : String)
  | type (name : String)
  /-- A method of the type of a value, bound to the value. -/
  | method (receiver : Value) (name : String)
  /-- A method of a type, bound to no value yet. -/
  | descriptor (typeName name : String)
  | member (receiver : Value) (which : Member)
  | iterator (id : Nat) (typeName : String)
  /-- The list that gathers the output. Whoever reads it gets the pieces that it holds by then. -/
  | output
  deriving Inhabited

namespace Value

/-- The name of the type of a value. -/
def typeName : Value → String
  | .none => "NoneType"
  | .bool _ => "bool"
  | .int _ => "int"
  | .float _ => "float"
  | .imaginary _ => "complex"
  | .str _ => "str"
  | .bytes _ => "bytes"
  | .list _ | .output => "list"
  | .tuple _ => "tuple"
  | .set _ => "set"
  | .dict _ => "dict"
  | .range .. => "range"
  | .object _ => "types.SimpleNamespace"
  | .ellipsis => "ellipsis"
  | .slice .. => "slice"
  | .closure .. | .helper _ => "function"
  | .builtin _ | .method .. => "builtin_function_or_method"
  | .descriptor .. => "method_descriptor"
  | .type _ => "type"
  | .member .. => "functools.partial"
  | .iterator _ typeName => typeName

/-- How many numbers a range with a step that is not zero goes through. -/
def rangeLength (start stop step : Int) : Nat :=
  if 0 < step then ((stop - start + step - 1) / step).toNat
  else ((start - stop - step - 1) / (-step)).toNat

/-- The numbers of a range. -/
def rangeItems (start step : Int) (count : Nat) : List Value :=
  (List.range count).map fun (i : Nat) => .int (start + i * step)

/-- Whether a value counts as true. -/
def isTrue : Value → Bool
  | .none => false
  | .bool value => value
  | .int value => value != 0
  | .float value | .imaginary value => !value.isZero
  | .str value => !value.isEmpty
  | .bytes value => !value.isEmpty
  | .list items | .tuple items | .set items => !items.isEmpty
  | .dict entries => !entries.isEmpty
  | .range start stop step => rangeLength start stop step != 0
  | _ => true

/-- Whether a value is an array: what loops go through. Texts are none. -/
def isArray : Value → Bool
  | .list _ | .tuple _ | .range .. => true
  | _ => false

/-- Whether a value may hold other values. -/
def isComposite : Value → Bool
  | .none | .bool _ | .int _ | .float _ | .imaginary _ | .str _ | .bytes _ => false
  | _ => true

/-- Whether a value is a dictionary. -/
def isDict : Value → Bool
  | .dict _ => true
  | _ => false

/-- Whether a value can be called. -/
def isCallable : Value → Bool
  | .closure .. | .helper _ | .builtin _ | .type _ | .method .. | .descriptor .. | .member .. =>
    true
  | _ => false

/-- The integer that a value is; truth values count as zero and one. -/
def integer? : Value → Option Int
  | .bool b => some (if b then 1 else 0)
  | .int n => some n
  | _ => Option.none

/-- The items of an array. -/
def items? : Value → Option (List Value)
  | .list items | .tuple items => some items
  | .range start stop step => some (rangeItems start step (rangeLength start stop step))
  | _ => Option.none

/-- A text as a value. -/
def ofChars (s : List Char) : Value := .str (String.ofList s)

end Value

end Curly
