/-!
Double-precision numbers as exact values: a sign, a mantissa below 2^53 and a binary exponent from
-1074 to 971. Arithmetic is done on rationals and rounded once, to the nearest number with ties to
the even mantissa.
-/

namespace Curly

/-- `n / d` rounded to the nearest natural number, a half going to the even neighbour. -/
def roundHalfEven (n d : Nat) : Nat :=
  let q := n / d
  let r := n % d
  if 2 * r < d then q
  else if d < 2 * r then q + 1
  else if q % 2 = 0 then q else q + 1

/-- `q` rounded to the nearest integer, a half going to the even neighbour. -/
def roundRat (q : Rat) : Int :=
  let n : Int := roundHalfEven q.num.natAbs q.den
  if q.num < 0 then -n else n

/-- Two to an integer power. -/
def twoPow (e : Int) : Rat := if e < 0 then mkRat 1 (Nat.pow 2 e.natAbs) else Nat.pow 2 e.natAbs

/-- Ten to an integer power. -/
def tenPow (e : Int) : Rat := if e < 0 then mkRat 1 (Nat.pow 10 e.natAbs) else Nat.pow 10 e.natAbs

/-- A double-precision number. The finite number is `mantissa * 2 ^ exponent`, with its sign;
zeros have one too. -/
inductive Double
  | nan
  | infinite (negative : Bool)
  | finite (negative : Bool) (mantissa : Nat) (exponent : Int)
  deriving DecidableEq, Inhabited

namespace Double

/-- Zero with a sign. -/
def zero (negative : Bool) : Double := .finite negative 0 (-1074)

/-- The value of a finite number. -/
def toRat? : Double → Option Rat
  | .finite negative m e => some ((if negative then -1 else 1) * m * twoPow e)
  | _ => none

/-- The sign bit; that of a number that is none is not set. -/
def isNegative : Double → Bool
  | .nan => false
  | .infinite negative => negative
  | .finite negative _ _ => negative

/-- Whether a number is a zero of either sign. -/
def isZero : Double → Bool
  | .finite _ 0 _ => true
  | _ => false

/-- The number nearest to `num / den`, with the given sign; too large a quotient is infinite. -/
def ofQuotient (negative : Bool) (num den : Nat) : Double :=
  if num = 0 then zero negative
  else
    let scaled (e : Int) : Nat × Nat :=
      if e < 0 then (num <<< e.natAbs, den) else (num, den <<< e.natAbs)
    let guess : Int := (num.log2 : Int) - den.log2 - 52
    let (n, d) := scaled guess
    let e := max (if n / d < Nat.pow 2 52 then guess - 1 else guess) (-1074)
    let (n, d) := scaled e
    let m := roundHalfEven n d
    let (m, e) := if m = Nat.pow 2 53 then (Nat.pow 2 52, e + 1) else (m, e)
    if 971 < e then .infinite negative else .finite negative m e

/-- The number nearest to `q`; a zero has the given sign. -/
def ofRat (zeroNegative : Bool) (q : Rat) : Double :=
  if q = 0 then zero zeroNegative else ofQuotient (q.num < 0) q.num.natAbs q.den

/-- The number nearest to an integer. -/
def ofInt (n : Int) : Double := ofQuotient (n < 0) n.natAbs 1

/-- The largest finite number exceeded: no finite number is near enough. -/
def isInfinite : Double → Bool
  | .infinite _ => true
  | _ => false

/-- Whether a number is none. -/
def isNaN : Double → Bool
  | .nan => true
  | _ => false

/-- The number with the opposite sign. -/
def neg : Double → Double
  | .nan => .nan
  | .infinite negative => .infinite !negative
  | .finite negative m e => .finite (!negative) m e

/-- The number without its sign. -/
def abs : Double → Double
  | .nan => .nan
  | .infinite _ => .infinite false
  | .finite _ m e => .finite false m e

/-- The sum. Opposite infinities have none; opposite numbers sum to the positive zero. -/
def add (x y : Double) : Double :=
  match x, y with
  | .nan, _ | _, .nan => .nan
  | .infinite s, .infinite t => if s = t then x else .nan
  | .infinite _, _ => x
  | _, .infinite _ => y
  | .finite .., .finite .. =>
    match x.toRat?, y.toRat? with
    | some p, some q => ofRat (x.isNegative && y.isNegative) (p + q)
    | _, _ => .nan

/-- The difference. -/
def sub (x y : Double) : Double := x.add y.neg

/-- The product. Zero times infinity has none. -/
def mul (x y : Double) : Double :=
  let negative := x.isNegative != y.isNegative
  match x, y with
  | .nan, _ | _, .nan => .nan
  | .infinite _, _ => if y.isZero then .nan else .infinite negative
  | _, .infinite _ => if x.isZero then .nan else .infinite negative
  | .finite _ m e, .finite _ n f => ofRat negative
      ((if negative then -1 else 1) * (m * n : Nat) * twoPow (e + f))

/-- The quotient by a number that is not zero. -/
def div (x y : Double) : Double :=
  let negative := x.isNegative != y.isNegative
  match x, y with
  | .nan, _ | _, .nan => .nan
  | .infinite _, .infinite _ => .nan
  | .infinite _, _ => .infinite negative
  | _, .infinite _ => zero negative
  | .finite .., .finite .. =>
    match x.toRat?, y.toRat? with
    | some p, some q => ofRat negative (p / q)
    | _, _ => .nan

/-- The integer nearest to zero's side of `q`. -/
def truncRat (q : Rat) : Int := if q < 0 then q.ceil else q.floor

/-- The remainder that has the sign of the dividend. The divisor is not zero. -/
def truncMod (x y : Double) : Double :=
  match x, y with
  | .nan, _ | _, .nan | .infinite _, _ => .nan
  | _, .infinite _ => x
  | .finite .., .finite .. =>
    match x.toRat?, y.toRat? with
    | some p, some q => ofRat x.isNegative (p - q * truncRat (p / q))
    | _, _ => .nan

/-- The largest whole number not above `x`. -/
def floor (x : Double) : Double :=
  match x.toRat? with
  | some q => ofRat x.isNegative q.floor
  | none => x

/-- Division with floor: the remainder has the sign of the divisor, which is not zero, and the
quotient is the whole number nearest to what is then divided. -/
def floorDivMod (x y : Double) : Double × Double :=
  let m := x.truncMod y
  let d := (x.sub m).div y
  let (d, m) :=
    if m.isZero then (d, zero y.isNegative)
    -- A remainder of the other sign is that of the quotient one above.
    else if !m.isNaN && m.isNegative != y.isNegative then (d.sub (ofInt 1), m.add y)
    else (d, m)
  if d.isZero then (zero (x.isNegative != y.isNegative), m)
  else
    let f := d.floor
    match (d.sub f).toRat? with
    -- The quotient was rounded before its floor is taken, so the floor may be one too low.
    | some r => (if mkRat 1 2 < r then f.add (ofInt 1) else f, m)
    | none => (f, m)

/-- Where two numbers stand to each other; a number that is none stands nowhere. -/
def compare? (x y : Double) : Option Ordering :=
  match x, y with
  | .nan, _ | _, .nan => none
  | .infinite s, .infinite t => some (compare t.toNat s.toNat)
  | .infinite s, _ => some (if s then .lt else .gt)
  | _, .infinite t => some (if t then .gt else .lt)
  | .finite .., .finite .. =>
    match x.toRat?, y.toRat? with
    | some p, some q => some (if p < q then .lt else if p = q then .eq else .gt)
    | _, _ => none

/-- Where an integer stands to a number, by exact value. -/
def compareInt? (n : Int) (y : Double) : Option Ordering :=
  match y with
  | .nan => none
  | .infinite t => some (if t then .gt else .lt)
  | .finite .. =>
    match y.toRat? with
    | some q => some (if (n : Rat) < q then .lt else if (n : Rat) = q then .eq else .gt)
    | none => none

/-- Whether a number is finite and has no fraction. -/
def isWhole (x : Double) : Bool :=
  match x.toRat? with
  | some q => q.den == 1
  | none => false

/-- The bits of the interchange format: sign, biased exponent, mantissa without its leading bit. -/
def toBits : Double → UInt64
  | .nan => 0x7FF8000000000000
  | .infinite negative => if negative then 0xFFF0000000000000 else 0x7FF0000000000000
  | .finite negative m e =>
    let sign : Nat := if negative then Nat.pow 2 63 else 0
    let body : Nat := if m < Nat.pow 2 52 then m else (e + 1075).toNat * Nat.pow 2 52 + (m - Nat.pow 2 52)
    (sign + body).toUInt64

/-- The number that the bits of the interchange format stand for. -/
def ofBits (b : UInt64) : Double :=
  let n := b.toNat
  let negative := Nat.pow 2 63 ≤ n
  let biased : Nat := n / Nat.pow 2 52 % Nat.pow 2 11
  let fraction : Nat := n % Nat.pow 2 52
  if biased = 2047 then if fraction = 0 then .infinite negative else .nan
  else if biased = 0 then .finite negative fraction (-1074)
  else .finite negative (Nat.pow 2 52 + fraction) ((biased : Int) - 1075)

/-- The machine's power function. -/
def pow (x y : Double) : Double :=
  ofBits ((Float.ofBits x.toBits) ^ (Float.ofBits y.toBits)).toBits

end Double

end Curly
