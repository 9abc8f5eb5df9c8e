import Curly.Fault
import Curly.Value

/-!
Attributes: what stands under a name on a value. An object has its fields, a number its parts, a
range its bounds, and values of most types have methods.
-/

namespace Curly.Value

/-- The methods of the values of a type. -/
def methodNames : String → List String
  | "str" =>
    ["capitalize", "casefold", "center", "count", "encode", "endswith", "expandtabs", "find",
      "format", "format_map", "index", "isalnum", "isalpha", "isascii", "isdecimal", "isdigit",
      "isidentifier", "islower", "isnumeric", "isprintable", "isspace", "istitle", "isupper",
      "join", "ljust", "lower", "lstrip", "maketrans", "partition", "removeprefix",
      "removesuffix", "replace", "rfind", "rindex", "rjust", "rpartition", "rsplit", "rstrip",
      "split", "splitlines", "startswith", "strip", "swapcase", "title", "translate", "upper",
      "zfill"]
  | "bytes" =>
    ["capitalize", "center", "count", "decode", "endswith", "expandtabs", "find", "fromhex",
      "hex", "index", "isalnum", "isalpha", "isascii", "isdigit", "islower", "isspace",
      "istitle", "isupper", "join", "ljust", "lower", "lstrip", "maketrans", "partition",
      "removeprefix", "removesuffix", "replace", "rfind", "rindex", "rjust", "rpartition",
      "rsplit", "rstrip", "split", "splitlines", "startswith", "strip", "swapcase", "title",
      "translate", "upper", "zfill"]
  | "list" =>
    ["append", "clear", "copy", "count", "extend", "index", "insert", "pop", "remove", "reverse",
      "sort"]
  | "tuple" | "range" => ["count", "index"]
  | "int" | "bool" =>
    ["as_integer_ratio", "bit_count", "bit_length", "conjugate", "from_bytes", "to_bytes"]
  | "float" => ["as_integer_ratio", "conjugate", "fromhex", "hex", "is_integer"]
  | "complex" => ["conjugate"]
  | "set" =>
    ["add", "clear", "copy", "difference", "difference_update", "discard", "intersection",
      "intersection_update", "isdisjoint", "issubset", "issuperset", "pop", "remove",
      "symmetric_difference", "symmetric_difference_update", "union", "update"]
  | "dict" =>
    ["clear", "copy", "fromkeys", "get", "items", "keys", "pop", "popitem", "setdefault",
      "update", "values"]
  | "generator" => ["close", "send", "throw"]
  | "slice" => ["indices"]
  | _ => []

/-- A part of a value that is no method. -/
def part? (v : Value) (name : String) : Option Value :=
  match v, name with
  | .object fields, name => fields.lookup name
  | .float x, "real" => some (.float x)
  | .float _, "imag" => some (.float (.zero false))
  | .imaginary _, "real" => some (.float (.zero false))
  | .imaginary x, "imag" => some (.float x)
  | .range start _ _, "start" => some (.int start)
  | .range _ stop _, "stop" => some (.int stop)
  | .range _ _ step, "step" => some (.int step)
  | .slice lower _ _, "start" => some lower
  | .slice _ upper _, "stop" => some upper
  | .slice _ _ step, "step" => some step
  | .member v _, "args" => some (.tuple [v])
  | .member _ _, "keywords" => some (.dict [])
  | v, "real" | v, "numerator" => v.integer?.map .int
  | v, "imag" => v.integer?.map fun _ => .int 0
  | v, "denominator" => v.integer?.map fun _ => .int 1
  | _, _ => Option.none

/-- What stands under a name on a value. -/
def attr (v : Value) (name : String) : Except Fault Value :=
  match v.part? name with
  | some w => .ok w
  | Option.none =>
    match v with
    | .type t =>
      if (methodNames t).contains name then .ok (.descriptor t name)
      else .error (.noTypeAttribute t name)
    | v =>
      if (methodNames v.typeName).contains name then .ok (.method v name)
      else .error (.noAttribute v.typeName name)

end Curly.Value
