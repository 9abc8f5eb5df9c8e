import Curly.Number.Layout

/-!
Figures: the decimal digits of a number to so many places, and how they are written with a point
and an exponent.
-/

namespace Curly

/-- Decimal digits and where the point stands among them: before the first one at zero. What is
before the digits or behind them is zeros. -/
structure Figures where
  digits : List Char
  point : Int
  deriving DecidableEq, Inhabited

namespace Figures

/-- The digits of a number that is not negative, rounded to so many places behind the point, a half
to the even neighbour. -/
def toPlaces (places : Nat) (q : Rat) : Figures :=
  let n := (roundRat (q * tenPow places)).toNat
  let ds := if n = 0 then [] else Nat.toDigits 10 n
  ⟨ds, ds.length - places⟩

/-- The first digits of a number that is not negative, of which there are to be `count`, at least
one. -/
def leading (count : Nat) (q : Rat) : Figures :=
  if q = 0 then ⟨['0'], 1⟩
  else
    let p := Decimal.leading q
    let n := (roundRat (q * tenPow (count - p))).toNat
    let ds := Nat.toDigits 10 n
    -- rounding up may give one digit more
    ⟨ds.take count, p + (ds.length - count)⟩

/-- The fewest digits that read back as a finite number. -/
def shortest (m : Nat) (e : Int) : Figures :=
  let d := Decimal.shortest m e
  let ds := Nat.toDigits 10 d.digits
  ⟨ds, ds.length + d.exponent⟩

/-- Figures without the zeros behind the last other digit; one digit stays. -/
def trimmed (f : Figures) : Figures :=
  let ds := (f.digits.reverse.dropWhile (· == '0')).reverse
  { f with digits := if ds.isEmpty then f.digits.take 1 else ds }

/-- Whether all digits are zeros. -/
def isZero (f : Figures) : Bool := f.digits.all (· == '0')

/-- The digits between two places. -/
def between (f : Figures) (start stop : Int) : List Char :=
  (List.range (stop - start).toNat).map fun (i : Nat) =>
    let place := start + i
    if place < 0 then '0' else f.digits[place.toNat]?.getD '0'

/-- Writes digits up to a place, with a point among them; a point at the end may stay. -/
def positional (keepPoint : Bool) (stop : Int) (f : Figures) : List Char :=
  let start := if f.point ≤ 0 then f.point - 1 else 0
  let behind := f.between f.point (max stop f.point)
  f.between start f.point ++ (if behind.isEmpty && !keepPoint then [] else ['.']) ++ behind

/-- Writes digits up to a place with the point behind the first one, and an exponent. -/
def scientific (keepPoint : Bool) (stop : Int) (f : Figures) : List Char :=
  let power := f.point - 1
  positional keepPoint stop { f with point := 1 } ++
    'e' :: (if power < 0 then '-' else '+') :: FloatLayout.padded 2 power.natAbs

end Figures

end Curly
