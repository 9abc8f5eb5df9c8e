import Curly.Number.Double

/-!
Decimal digits of a double-precision number: the fewest that read back, and of those the nearest.
-/

namespace Curly

/-- A decimal number `digits * 10 ^ exponent`. -/
structure Decimal where
  digits : Nat
  exponent : Int
  deriving DecidableEq

namespace Decimal

/-- The value of a decimal number. -/
def toRat (d : Decimal) : Rat := d.digits * tenPow d.exponent

/-- The same number with no zero at the end of its digits. -/
def trimAux : Nat → Decimal → Decimal
  | 0, d => d
  | fuel + 1, d =>
    if d.digits % 10 = 0 then trimAux fuel ⟨d.digits / 10, d.exponent + 1⟩ else d

/-- The same number with no zero at the end of its digits; zero is `0 * 10 ^ 0`. -/
def trim (d : Decimal) : Decimal :=
  if d.digits = 0 then ⟨0, 0⟩ else trimAux d.digits.log2 d

/-- How many digits a natural number has; zero has one. -/
def width (n : Nat) : Nat := (Nat.toDigits 10 n).length

/-- The position of the leading digit of a positive rational: `10 ^ (p - 1) ≤ q < 10 ^ p`. -/
def leading (q : Rat) : Int :=
  if 1 ≤ q then width q.floor.toNat
  else
    -- below one, the reciprocal has as many digits as there are zeros, up to one
    let w : Int := width (1 / q).floor.toNat
    if q < tenPow (-w) then -w else 1 - w

/-- The ends of the interval of rationals that round to `m * 2 ^ e`, and whether they belong to
it. Below a power of two the gap is half as wide. -/
def interval (m : Nat) (e : Int) : Rat × Rat × Bool :=
  let low := if m = Nat.pow 2 52 ∧ -1074 < e then 1 else 2
  ((4 * m - low : Nat) * twoPow (e - 2), (4 * m + 2 : Nat) * twoPow (e - 2), m % 2 == 0)

/-- The neighbour of `q` on the grid `10 ^ k` that lies in the interval; of two the nearer, of two
equally near the even one. -/
def onGrid? (q lo hi : Rat) (closed : Bool) (k : Int) : Option Decimal :=
  let unit := tenPow k
  let d := (q / unit).floor.toNat
  let inside (n : Nat) : Bool :=
    let x := n * unit
    if closed then lo ≤ x && x ≤ hi else lo < x && x < hi
  match inside d, inside (d + 1) with
  | false, false => none
  | true, false => some ⟨d, k⟩
  | false, true => some ⟨d + 1, k⟩
  | true, true =>
    let below := q - d * unit
    let above := (d + 1) * unit - q
    if below < above then some ⟨d, k⟩
    else if above < below then some ⟨d + 1, k⟩
    else some ⟨if d % 2 = 0 then d else d + 1, k⟩

/-- The shortest decimal that reads back as `m * 2 ^ e`: grids are tried from coarse to fine. -/
def shortest (m : Nat) (e : Int) : Decimal :=
  if m = 0 then ⟨0, 0⟩
  else
    let q := m * twoPow e
    let (lo, hi, closed) := interval m e
    let p := leading q
    match (List.range 17).findSome? fun (n : Nat) => onGrid? q lo hi closed (p - 1 - n) with
    | some d => d.trim
    | none => ⟨0, 0⟩

end Decimal

end Curly
