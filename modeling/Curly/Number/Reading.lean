import Curly.Number.Double
import Curly.Text.Space
import Curly.Text.Unicode.Letter

/-!
Numbers read from texts: digits of any script, single low lines between digits, white space around.
-/

namespace Curly.Reading

open Curly.Text Curly.Text.Unicode

/-- White space around a number: in ASCII only blanks and line ends, elsewhere all white space. -/
def isBlank (c : Char) : Bool :=
  if c.toNat < 127 then c == ' ' || (9 ≤ c.toNat && c.toNat ≤ 13) else isSpace c

/-- A text without the blanks at its ends, with the decimal digits of any script written in
ASCII. -/
def plain (s : List Char) : List Char :=
  let body := ((s.dropWhile isBlank).reverse.dropWhile isBlank).reverse
  body.map fun c =>
    match decimalValue c with
    | some d => Nat.digitChar d
    | none => c

/-- The sign in front of a number, and what follows it. -/
def sign : List Char → Bool × List Char
  | '-' :: s => (true, s)
  | '+' :: s => (false, s)
  | s => (false, s)

/-- Digits of a class with single low lines between them, without the low lines. -/
def digitsOf? (isDigit : Char → Bool) (s : List Char) : Option (List Char) :=
  match s with
  | [] => none
  | c :: cs =>
    if !isDigit c then none
    else
      match cs with
      | [] => some [c]
      | '_' :: d :: ds =>
        if isDigit d then (digitsOf? isDigit (d :: ds)).map (c :: ·) else none
      | d :: ds => (digitsOf? isDigit (d :: ds)).map (c :: ·)

/-- Decimal digits with single low lines between them, without the low lines. -/
def digits? (s : List Char) : Option (List Char) := digitsOf? Char.isDigit s

/-- The number that decimal digits write. -/
def natOf (ds : List Char) : Nat := ds.foldl (fun n c => 10 * n + (c.toNat - 48)) 0

/-- The most digits that a number read from or written as a text may have. -/
def digitLimit : Nat := 4300

/-- What comes of reading an integer. -/
inductive IntResult
  | ok (n : Int)
  | malformed
  | tooLong (digits : Nat)

/-- Reads a decimal integer. -/
def int (s : List Char) : IntResult :=
  let (negative, body) := sign (plain s)
  match digits? body with
  | none => .malformed
  | some ds =>
    if digitLimit < ds.length then .tooLong ds.length
    else .ok (if negative then -(natOf ds : Int) else natOf ds)

/-- The value of a letter or digit as a digit. -/
def digitValue? (c : Char) : Option Nat :=
  if c.isDigit then some (c.toNat - '0'.toNat)
  else if 'a' ≤ c && c ≤ 'z' then some (c.toNat - 'a'.toNat + 10)
  else if 'A' ≤ c && c ≤ 'Z' then some (c.toNat - 'A'.toNat + 10)
  else none

/-- The base that a letter after a zero stands for. -/
def markedBase? (c : Char) : Option Nat :=
  match c.toLower with
  | 'x' => some 16
  | 'o' => some 8
  | 'b' => some 2
  | _ => none

/-- The base and the digits of an integer without its sign. With base zero the mark in front of the
digits tells, and without a mark a zero begins none but zero; otherwise a mark may stand in front
if it is that of the base. -/
def baseAndDigits (base : Nat) (s : List Char) : Option (Nat × List Char) :=
  let afterMark (ds : List Char) : List Char :=
    match ds with
    | '_' :: ds => ds
    | ds => ds
  match s with
  | '0' :: c :: ds =>
    match markedBase? c with
    | some b =>
      if base = b ∨ base = 0 then some (b, afterMark ds) else some (base, s)
    | none =>
      if base = 0 then if s.all fun c => c == '0' || c == '_' then some (10, s) else none
      else some (base, s)
  | s => some (if base = 0 then 10 else base, s)

/-- Reads an integer in a base from 2 to 36, or in the base that its mark tells. -/
def intIn (base : Nat) (s : List Char) : IntResult :=
  let (negative, body) := sign (plain s)
  match baseAndDigits base body with
  | none => .malformed
  | some (base, ds) =>
    let value (c : Char) : Option Nat := (digitValue? c).filter (· < base)
    match digitsOf? (fun c => (value c).isSome) ds with
    | none => .malformed
    | some ds =>
      -- Bases that are powers of two have no limit, since their digits are read in one pass.
      if digitLimit < ds.length ∧ !(base == 2 || base == 4 || base == 8 || base == 16 ||
          base == 32) then .tooLong ds.length
      else
        let n := ds.foldl (fun n c => base * n + (value c).getD 0) 0
        .ok (if negative then -(n : Int) else n)

/-- The number `digits * 10 ^ exponent`; exponents far outside the range of the format are decided
without computing the power. -/
def scaled (negative : Bool) (digits : List Char) (exponent : Int) : Double :=
  let ds := digits.dropWhile (· == '0')
  if ds.isEmpty then .zero negative
  else if 400 < ds.length + exponent then .infinite negative
  else if ds.length + exponent < -400 then .zero negative
  else if exponent < 0 then .ofQuotient negative (natOf ds) (Nat.pow 10 exponent.natAbs)
  else .ofQuotient negative (natOf ds * Nat.pow 10 exponent.natAbs) 1

/-- Splits digits (and low lines) off the front. -/
def spanDigits (s : List Char) : List Char × List Char :=
  s.span fun c => c.isDigit || c == '_'

/-- Digits in front, which may be missing; `none` if low lines stand wrong. -/
def digitsOrNone? (s : List Char) : Option (List Char) :=
  if s.isEmpty then some [] else digits? s

/-- Reads a decimal number without sign: digits, a fraction, an exponent. -/
def unsigned? (negative : Bool) (s : List Char) : Option Double :=
  let (whole, rest) := spanDigits s
  let (fraction, rest) :=
    match rest with
    | '.' :: r => spanDigits r
    | r => ([], r)
  let exponent? : Option Int :=
    match rest with
    | [] => some 0
    | e :: r =>
      if e == 'e' || e == 'E' then
        let (negative, ds) := sign r
        (digits? ds).map fun ds => if negative then -(natOf ds : Int) else natOf ds
      else none
  match digitsOrNone? whole, digitsOrNone? fraction, exponent? with
  | some w, some f, some e => if w.isEmpty && f.isEmpty then none else
    some (scaled negative (w ++ f) (e - f.length))
  | _, _, _ => none

/-- Reads a number: an infinity, a number that is none, or a decimal number. -/
def float? (s : List Char) : Option Double :=
  let (negative, body) := sign (plain s)
  let word := String.ofList (body.map Char.toLower)
  if word == "inf" || word == "infinity" then some (.infinite negative)
  else if word == "nan" then some .nan
  else unsigned? negative body

end Curly.Reading
