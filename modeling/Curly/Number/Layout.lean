import Curly.Number.Decimal

/-!
How a double-precision number is written: its shortest decimal, laid out as a record says.
-/

namespace Curly

/-- How the digits of a number are laid out. -/
structure FloatLayout where
  /-- Exponents of the leading digit from here on are written positionally, … -/
  positionalFrom : Int
  /-- … up to below this one. -/
  positionalBelow : Int
  /-- What a whole number ends in when it is written positionally. -/
  wholeEnd : String
  /-- The word for infinity. -/
  infinity : String
  /-- The word for a number that is none. -/
  nan : String

namespace FloatLayout

/-- Digits padded with zeros at the front. -/
def padded (width : Nat) (n : Nat) : List Char :=
  let ds := Nat.toDigits 10 n
  List.replicate (width - ds.length) '0' ++ ds

/-- The text of a finite number without its sign. -/
def body (l : FloatLayout) (d : Decimal) : List Char :=
  let ds := Nat.toDigits 10 d.digits
  -- The power of ten that the first digit counts.
  let lead : Int := ds.length + d.exponent - 1
  if l.positionalFrom ≤ lead && lead < l.positionalBelow then
    if 0 ≤ d.exponent then ds ++ List.replicate d.exponent.toNat '0' ++ l.wholeEnd.toList
    else if 0 ≤ lead then
      let n := (lead + 1).toNat
      ds.take n ++ '.' :: ds.drop n
    else '0' :: '.' :: List.replicate (-lead - 1).toNat '0' ++ ds
  else
    let mantissa :=
      match ds with
      | [c] => [c]
      | c :: cs => c :: '.' :: cs
      | [] => []
    mantissa ++ 'e' :: (if lead < 0 then '-' else '+') :: padded 2 lead.natAbs

/-- The text of a number. -/
def write (l : FloatLayout) : Double → String
  | .nan => l.nan
  | .infinite negative => (if negative then "-" else "") ++ l.infinity
  | .finite negative m e =>
    String.ofList ((if negative then ['-'] else []) ++ l.body (Decimal.shortest m e))

/-- Numbers in values: positional from 0.0001 to below 10^16, always with a point or an
exponent. -/
def value : FloatLayout := ⟨-4, 16, ".0", "inf", "nan"⟩

/-- Numbers in generated code: an overflowing literal stands for infinity. -/
def code : FloatLayout := { value with infinity := "1e309", nan := "(1e309-1e309)" }

/-- Imaginary parts in generated code: whole numbers have no point. -/
def imaginary : FloatLayout := { code with wholeEnd := "" }

end FloatLayout

end Curly
