import Curly.Fault
import Curly.Text.Unicode.Letter
import Curly.Value.Arithmetic

/-!
Styles of fields: how wide a field is and where its value stands in it, and how numbers are written.
-/

namespace Curly

/-- The style of a field. -/
structure FieldStyle where
  fill : Char := ' '
  /-- Where the value stands: at the left, at the right, in the middle, or behind its sign. -/
  align : Char
  sign : Option Char := none
  /-- Whether a number that rounds to zero loses its sign. -/
  plainZero : Bool := false
  alternate : Bool := false
  width : Option Nat := none
  separator : Option Char := none
  precision : Option Nat := none
  code : Option Char := none
  deriving DecidableEq, Inhabited

namespace FieldStyle

/-- Whether a character says where a value stands. -/
def isAlign (c : Char) : Bool := c == '<' || c == '>' || c == '=' || c == '^'

/-- The number in front of a text, if there is one, and what follows it. -/
def number? (s : List Char) : Except FieldFault (Option Nat × List Char) :=
  let ds := s.takeWhile Text.Unicode.isDecimal
  let n := ds.foldl (fun n c => 10 * n + (Text.Unicode.decimalValue c).getD 0) 0
  if indexLimit < n then .error .tooManyDigits
  else .ok (if ds.isEmpty then none else some n, s.drop ds.length)

/-- The alignment in front of a style, perhaps behind what fills the field. -/
def alignOf : List Char → Option Char × Option Char × List Char
  | fill :: align :: s =>
    if isAlign align then (some fill, some align, s)
    else if isAlign fill then (none, some fill, align :: s)
    else (none, none, fill :: align :: s)
  | [align] => if isAlign align then (none, some align, []) else (none, none, [align])
  | [] => (none, none, [])

/-- Takes one of several characters that may be in front of a text. -/
def optional (p : Char → Bool) : List Char → Option Char × List Char
  | c :: s => if p c then (some c, s) else (none, c :: s)
  | [] => (none, [])

/-- What stands between groups of digits. -/
def separatorOf (s : List Char) : Except FieldFault (Option Char × List Char) :=
  match s with
  | ',' :: '_' :: _ | '_' :: ',' :: _ => .error .twoSeparators
  | ',' :: s => .ok (some ',', s)
  | '_' :: s => .ok (some '_', s)
  | s => .ok (none, s)

/-- The digits that a value is cut or rounded to. -/
def precisionOf (s : List Char) : Except FieldFault (Option Nat × List Char) := do
  match s with
  | '.' :: s =>
    match ← number? s with
    | (none, _) => throw .noPrecision
    | found => return found
  | s => return (none, s)

/-- Whether digits are put into groups where a style has a code. -/
def mayGroup (separator : Char) (code : Char) : Bool :=
  "deEfFgG%".toList.contains code || (separator == '_' && "boxX".toList.contains code)

/-- Reads a style for a value of a type. -/
def read (typeName : String) (usualAlign : Char) (usualCode : Option Char) (style : List Char) :
    Except FieldFault FieldStyle := do
  let (fill, align, s) := alignOf style
  let (sign, s) := optional (fun c => c == ' ' || c == '+' || c == '-') s
  let (zero, s) := optional (· == 'z') s
  let (alternate, s) := optional (· == '#') s
  -- With a fill of its own the style has no padding zero: the zero then begins the width.
  let (padding, s) := if fill.isNone then optional (· == '0') s else (none, s)
  let (width, s) ← number? s
  let (separator, s) ← separatorOf s
  let (precision, s) ← precisionOf s
  let code ← match s with
    | [] => pure usualCode
    | [c] => pure (some c)
    | _ => throw (.invalidStyle (String.ofList style) typeName)
  match separator, code with
  | some sep, some c => if !mayGroup sep c then throw (.separatorWith sep c)
  | _, _ => pure ()
  let behindSign := padding.isSome && usualAlign == '>'
  return {
    fill := fill.getD (if padding.isSome then '0' else ' ')
    align := align.getD (if behindSign then '=' else usualAlign)
    sign, plainZero := zero.isSome, alternate := alternate.isSome, width, separator, precision,
    code }

/-- Digits in groups, from the last one on, and with zeros in front up to a width. The digits come
backwards, and so does the result. -/
def grouped (size : Nat) (separator : Char) : (fuel : Nat) → (first : Bool) → (width : Int) →
    List Char → List Char
  | 0, _, _, _ => []
  | fuel + 1, first, width, ds =>
    let n := min size (max (max ds.length width.toNat) 1)
    let group := ds.take n ++ List.replicate (n - ds.length) '0'
    let front := if first then group else separator :: group
    let rest := ds.drop n
    let width := width - n
    if rest.isEmpty && width ≤ 0 then front
    else front ++ grouped size separator fuel false (width - 1) rest

/-- A number in its field: its sign, a mark behind that, its digits, and what follows them. -/
def layNumber (style : FieldStyle) (negative : Bool) (mark digits tail : List Char) : List Char :=
  let sign := if negative then ['-'] else match style.sign with
    | some '-' | none => []
    | some c => [c]
  let width : Int := style.width.getD 0
  let others : Int := sign.length + mark.length + tail.length
  -- Zeros behind the sign count as digits, and are grouped with them.
  let least : Int := if style.fill == '0' && style.align == '=' then width - others else 0
  let size := if style.code.any "boxX".toList.contains then 4 else 3
  let digits :=
    if digits.isEmpty then []
    else match style.separator with
      | some sep =>
        (grouped size sep (digits.length + least.toNat + 1) true least digits.reverse).reverse
      | none => List.replicate (least.toNat - digits.length) '0' ++ digits
  let missing := (width - others - digits.length).toNat
  let pad (n : Nat) := List.replicate n style.fill
  match style.align with
  | '<' => sign ++ mark ++ digits ++ tail ++ pad missing
  | '^' => pad (missing / 2) ++ sign ++ mark ++ digits ++ tail ++ pad (missing - missing / 2)
  | '=' => sign ++ mark ++ pad missing ++ digits ++ tail
  | _ => pad missing ++ sign ++ mark ++ digits ++ tail

/-- A text in its field. -/
def layText (style : FieldStyle) (s : List Char) : List Char :=
  let s := (style.precision.map s.take).getD s
  { style with sign := none, separator := none }.layNumber false [] [] s

end FieldStyle

end Curly
