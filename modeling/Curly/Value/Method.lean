import Curly.Value.Method.Container
import Curly.Value.Method.Number
import Curly.Value.Method.Text

/-!
Methods: what the methods of texts, bytes, numbers and containers give. None changes its value.
-/

namespace Curly.Value

/-- Calls a method of a value. Iterators among the arguments must have been gone through. -/
def callMethod (v : Value) (name : String) (a : Arguments) : Except Fault Value :=
  match v with
  | .str s => callText s.toList name a
  | .list items => callSequence "list" items name a
  | .tuple items => callSequence "tuple" items name a
  | .range start stop step => callRange start stop step name a
  | .bool b => callInteger true (if b then 1 else 0) name a
  | .int n => callInteger false n name a
  | .float x => callFloat x name a
  | .set items => callSet items name a
  | .bytes b => callBytes b name a
  | v => .error (.unsupported (v.typeName ++ "." ++ name))

/-- A value of a type by which those methods are called that need none. -/
def standIn? (typeName name : String) : Option Value :=
  match typeName, name with
  | "str", "maketrans" => some (.str "")
  | "int", "from_bytes" => some (.int 0)
  | "bool", "from_bytes" => some (.bool false)
  | _, _ => Option.none

/-- The methods whose arguments are gone through. -/
def takesElements (name : String) : Bool :=
  ["join", "union", "intersection", "difference", "symmetric_difference", "issubset",
    "issuperset", "isdisjoint", "from_bytes"].contains name

end Curly.Value
