import Curly.Expr.Printer
import Curly.Fault
import Curly.Text.Search
import Curly.Value.Equality

/-!
Operators on values. Integers are exact, of any size, and divide to the floor; truth values count
as zero and one; floating-point numbers follow their own rules, and what mixes both is converted.
Texts and lists are joined and repeated, sets and dictionaries combined.
-/

namespace Curly

/-- A bitwise operation on integers in two's complement: on so many bits that both have a sign. -/
def bitwise (f : Nat → Nat → Nat) (a b : Int) : Int :=
  let width := max a.natAbs.log2 b.natAbs.log2 + 2
  let m : Int := Nat.pow 2 width
  let r := f (a % m).toNat (b % m).toNat
  if r < Nat.pow 2 (width - 1) then r else r - m

/-- The largest size of what is indexed. -/
def indexLimit : Int := Int.pow 2 63 - 1

/-- The greatest count of things that a parameter takes. -/
def countLimit : Int := Int.pow 2 31 - 1

/-- How long a text or list may get. -/
def sizeLimit : Nat := Nat.pow 2 32

namespace Value

/-- The floating-point number nearest to an integer; beyond the range there is none. -/
def floatOf (n : Int) : Except Fault Double :=
  let x := Double.ofInt n
  if x.isInfinite then .error .integerTooLarge else .ok x

/-- A number as a floating-point number. -/
def Number.toFloat : Number → Except Fault Double
  | .int n => floatOf n
  | .float x => .ok x

/-- Powers of floating-point numbers. -/
def floatPower (x y : Double) : Except Fault Value :=
  let isOrdinary (z : Double) := !z.isNaN && !z.isInfinite
  if x.isZero && y.isNegative && !y.isNaN && !y.isZero then .error .zeroToNegative
  else if isOrdinary x && isOrdinary y && x.isNegative && !x.isZero && !y.isWhole then
    .error (.unsupported "complex numbers")
  else
    let z := x.pow y
    if z.isInfinite && isOrdinary x && isOrdinary y then .error .resultRange else .ok (.float z)

/-- The quotient of integers as a floating-point number. -/
def quotient (a b : Int) : Except Fault Value :=
  if b = 0 then .error .divisionByZero
  else
    let x := Double.ofQuotient (decide (a < 0) != decide (b < 0)) a.natAbs b.natAbs
    if x.isInfinite then .error .quotientTooLarge else .ok (.float x)

/-- Powers of integers; a negative exponent makes them floating-point numbers. -/
def integerPower (a b : Int) : Except Fault Value :=
  if 0 ≤ b then .ok (.int (a.pow b.toNat))
  else do floatPower (← floatOf a) (← floatOf b)

/-- The message's spelling of an operator. -/
def operatorWord : BinaryOp → String
  | .pow => "** or pow()"
  | op => op.symbol

/-- The fault of an operator that two values do not have. -/
def badOperands (op : BinaryOp) (a b : Value) : Except Fault Value :=
  .error (.operands (operatorWord op) a.typeName b.typeName)

/-- Operators on integers. -/
def integerOperator (op : BinaryOp) (a b : Int) : Except Fault Value :=
  match op with
  | .add => .ok (.int (a + b))
  | .sub => .ok (.int (a - b))
  | .mul => .ok (.int (a * b))
  | .div => quotient a b
  | .floorDiv => if b = 0 then .error .integerDivisionByZero else .ok (.int (a.fdiv b))
  | .mod => if b = 0 then .error .integerModuloByZero else .ok (.int (a.fmod b))
  | .pow => integerPower a b
  | .shiftLeft =>
    if b < 0 then .error .negativeShift
    else if a ≠ 0 ∧ sizeLimit < b then .error .outOfMemory
    else .ok (.int (a * Nat.pow 2 (if a = 0 then 0 else b.toNat)))
  | .shiftRight =>
    if b < 0 then .error .negativeShift
    -- Every digit is shifted out. Decided by the length, since the count may be huge.
    else if a.natAbs.log2 < b then .ok (.int (if a < 0 then -1 else 0))
    else .ok (.int (a >>> b.toNat))
  | .bitAnd => .ok (.int (bitwise (· &&& ·) a b))
  | .bitXor => .ok (.int (bitwise (· ^^^ ·) a b))
  | .bitOr => .ok (.int (bitwise (· ||| ·) a b))
  | .matMul => badOperands op (.int a) (.int b)

/-- Operators on floating-point numbers, if they have them. -/
def floatOperator? (op : BinaryOp) (x y : Double) : Option (Except Fault Value) :=
  match op with
  | .add => some (.ok (.float (x.add y)))
  | .sub => some (.ok (.float (x.sub y)))
  | .mul => some (.ok (.float (x.mul y)))
  | .div => some (if y.isZero then .error .floatDivisionByZero else .ok (.float (x.div y)))
  | .floorDiv =>
    some (if y.isZero then .error .floatFloorDivisionByZero
      else .ok (.float (x.floorDivMod y).1))
  | .mod =>
    some (if y.isZero then .error .floatModuloByZero else .ok (.float (x.floorDivMod y).2))
  | .pow => some (floatPower x y)
  | _ => Option.none

/-- Repeats items. -/
def repeatItems (n : Int) (items : List α) : Except Fault (List α) :=
  if n < -indexLimit - 1 ∨ indexLimit < n then .error (.indexTooLarge "int")
  else if sizeLimit < n.toNat * items.length then .error .outOfMemory
  else .ok (List.replicate (if items.isEmpty then 0 else n.toNat) items).flatten

/-- Repeats a text or a list, if the value is one. -/
def repeat? (v : Value) (count : Value) : Option (Except Fault Value) :=
  let times (build : Int → Except Fault Value) : Option (Except Fault Value) :=
    match count.integer? with
    | some n => some (build n)
    | Option.none => some (.error (.repetition count.typeName))
  match v with
  | .str s => times fun n => ofChars <$> repeatItems n s.toList
  | .bytes b => times fun n => .bytes <$> repeatItems n b
  | .list items => times fun n => .list <$> repeatItems n items
  | .tuple items => times fun n => .tuple <$> repeatItems n items
  | _ => Option.none

/-- Joins a text or a list with another, if the value is one. -/
def concatenate? (a b : Value) : Option (Except Fault Value) :=
  match a, b with
  | .str s, .str t => some (.ok (.str (s ++ t)))
  | .bytes s, .bytes t => some (.ok (.bytes (s ++ t)))
  | .list s, .list t => some (.ok (.list (s ++ t)))
  | .tuple s, .tuple t => some (.ok (.tuple (s ++ t)))
  | .bytes _, b => some (.error (.bytesConcatenation b.typeName))
  | .str _, b | .list _, b | .tuple _, b =>
    some (.error (.concatenation a.typeName b.typeName))
  | _, _ => Option.none

/-- Fills in a text or bytes that have no places to fill in: what brings keys along need not be used
up. -/
def fillIn (whole v : Value) (hasPlaces : Bool) : Except Fault Value :=
  if hasPlaces then .error (.unsupported "places in texts")
  else
    match whole, v with
    | _, .tuple [] | _, .dict _ | _, .list _ | _, .range .. | .str _, .bytes _ => .ok whole
    | .str _, _ => .error (.unconverted "string")
    | _, _ => .error (.unconverted "bytes")

/-- Operators on sets, if they have them. -/
def setOperator? (op : BinaryOp) (as bs : List Value) : Option Value :=
  let isIn (vs : List Value) (v : Value) := vs.any (equal v ·)
  match op with
  | .bitOr => some (.set (bs.foldl (fun items v => adjoin v items) as))
  | .bitAnd => some (.set (as.filter (isIn bs)))
  | .sub => some (.set (as.filter (!isIn bs ·)))
  | .bitXor => some (.set (as.filter (!isIn bs ·) ++ bs.filter (!isIn as ·)))
  | _ => Option.none

/-- An operator on values that are not both numbers. -/
def otherOperator (op : BinaryOp) (a b : Value) : Except Fault Value :=
  let other? : Option (Except Fault Value) :=
    match op, a, b with
    | op, .set as, .set bs => (setOperator? op as bs).map .ok
    | .bitOr, .dict as, .dict bs => some (.ok (.dict (merge as bs)))
    | .mod, .str s, v => some (fillIn a v (s.toList.contains '%'))
    | .mod, .bytes s, v => some (fillIn a v (s.contains 0x25))
    | .add, a, b => concatenate? a b
    | .mul, a, b => repeat? a b <|> repeat? b a
    | _, _, _ => Option.none
  other?.getD (badOperands op a b)

/-- An operator between two values. -/
def operate (op : BinaryOp) (a b : Value) : Except Fault Value :=
  match a.number?, b.number? with
  | some (.int m), some (.int n) =>
    -- On two Booleans the operators of bits stay Boolean, on all others they give integers.
    match op, a, b with
    | .bitAnd, .bool x, .bool y => .ok (.bool (x && y))
    | .bitXor, .bool x, .bool y => .ok (.bool (x != y))
    | .bitOr, .bool x, .bool y => .ok (.bool (x || y))
    | .matMul, _, _ => badOperands op a b
    | _, _, _ => integerOperator op m n
  | some m, some n =>
    match op with
    | .add | .sub | .mul | .div | .floorDiv | .mod | .pow => do
      let x ← m.toFloat
      let y ← n.toFloat
      (floatOperator? op x y).getD (badOperands op a b)
    | _ => badOperands op a b
  | _, _ => otherOperator op a b

/-- An operator before a value. -/
def operateUnary (op : UnaryOp) (v : Value) : Except Fault Value :=
  match op, v with
  | .not, v => .ok (.bool !v.isTrue)
  | .minus, .float x => .ok (.float x.neg)
  | .plus, .float x => .ok (.float x)
  | op, v =>
    match v.integer? with
    | some n =>
      match op with
      | .minus => .ok (.int (-n))
      | .plus => .ok (.int n)
      | _ => .ok (.int (-n - 1))
    | Option.none => .error (.operand op.symbol v.typeName)

end Value

end Curly
