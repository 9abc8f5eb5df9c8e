import Curly.Value.Method.Coding

/-!
Methods of numbers.
-/

namespace Curly.Value

open Curly.Text

/-- How many bits of a natural number are set. -/
def bitCount (n : Nat) : Nat := ((Nat.toDigits 2 n).filter (· == '1')).length

/-- Calls a method of an integer, which may be a truth value. -/
def callInteger (truth : Bool) (n : Int) (name : String) (a : Arguments) : Except Fault Value := do
  let function := "int." ++ name
  match name with
  | "bit_length" => a.empty function; return .int (if n = 0 then 0 else n.natAbs.log2 + 1)
  | "bit_count" => a.empty function; return .int (bitCount n.natAbs)
  | "conjugate" => a.empty function; return .int n
  | "as_integer_ratio" => a.empty function; return .tuple [.int n, .int 1]
  | "to_bytes" => integerToBytes n a
  | "from_bytes" =>
    let n ← integerFromBytes a
    return if truth then .bool (n != 0) else .int n
  | _ => throw (.unsupported function)

/-- The exact hexadecimal text of a number: one digit, thirteen more, and a power of two. -/
def hexText : Double → String
  | .nan => "nan"
  | .infinite negative => if negative then "-inf" else "inf"
  | .finite negative m e =>
    let sign := if negative then "-" else ""
    if m = 0 then sign ++ "0x0.0p+0"
    else
      let power : Int := e + 52
      let body := String.ofList (Quoted.hex 13 (m % Nat.pow 2 52))
      sign ++ s!"0x{m / Nat.pow 2 52}." ++ body ++ "p" ++ (if power < 0 then "-" else "+") ++
        toString power.natAbs

/-- Calls a method of a floating-point number. -/
def callFloat (x : Double) (name : String) (a : Arguments) : Except Fault Value := do
  let function := "float." ++ name
  match name with
  | "is_integer" => a.empty function; return .bool x.isWhole
  | "conjugate" => a.empty function; return .float x
  | "hex" => a.empty function; return .str (hexText x)
  | "as_integer_ratio" =>
    a.empty function
    match x, x.toRat? with
    | _, some q => return .tuple [.int q.num, .int q.den]
    | .nan, _ => throw .nanToRatio
    | _, _ => throw .infinityToRatio
  | _ => throw (.unsupported function)

end Curly.Value
