import Curly.Number.Figures
import Curly.Value.Conversion
import Curly.Value.Field.Style

/-!
Presentation: values written in the style of a field. Texts and numbers have styles; all other
values take none but the empty one.
-/

namespace Curly.Value

/-- Refuses what a kind of values does not allow. -/
def forbid (given : Bool) (what kind : String) : Except Fault Unit :=
  if given then .error (.field (.notAllowed what kind)) else .ok ()

/-- A text in a style. -/
def presentText (s : List Char) (style : List Char) : Except Fault (List Char) := do
  let style ← (FieldStyle.read "str" '<' (some 's') style).mapError .field
  if style.code != some 's' then
    throw (.field (.unknownCode (style.code.getD 's') "str"))
  forbid (style.sign == some ' ') "Space" "string"
  forbid style.sign.isSome "Sign" "string"
  forbid style.plainZero "Negative zero coercion (z)" "string"
  forbid style.alternate "Alternate form (#)" "string"
  forbid (style.align == '=') "'=' alignment" "string"
  return style.layText s

/-- A number in the style of a code, without its sign: its digits and what follows them. -/
def figuresOf (style : FieldStyle) (code : Option Char) (q : Rat) (shortest : Figures) :
    List Char :=
  let keep := style.alternate
  let places := style.precision.getD 6
  let general (count : Nat) (withPoint : Bool) : List Char :=
    let f := (Figures.leading count q).trimmed
    let limit : Int := if withPoint then count - 1 else count
    let stop : Int := if keep then count else f.digits.length
    -- Too small or too large to be written without an exponent.
    if f.point ≤ -4 || limit < f.point then f.scientific keep stop
    else f.positional keep (if withPoint then max stop (f.point + 1) else stop)
  match code, style.precision with
  | Option.none, Option.none =>
    let f := shortest
    if f.point ≤ -4 || 16 < f.point then f.scientific keep f.digits.length
    else f.positional keep (max f.digits.length (f.point + 1))
  | Option.none, some n => general (max n 1) true
  | some 'e', _ => (Figures.leading (places + 1) q).scientific keep (places + 1)
  | some 'g', _ => general (max places 1) false
  | _, _ =>
    let f := Figures.toPlaces places q
    f.positional keep (f.point + places)

/-- A floating-point number in a style. -/
def presentFloat (style : FieldStyle) (x : Double) : Except Fault (List Char) := do
  if countLimit < style.precision.getD 0 then throw (.field .precisionSize)
  let capital := style.code.any "EFG".toList.contains
  let code := match style.code with
    | some 'n' => some 'g'
    | code => code.map Char.toLower
  let percent := style.code == some '%'
  let x := if percent then x.mul (.ofInt 100) else x
  let shortest : Figures := match x with
    | .finite _ m e => .shortest m e
    | _ => default
  let text := match x, x.toRat? with
    | _, some q => figuresOf style code (if q < 0 then -q else q) shortest
    | .nan, _ => "nan".toList
    | _, _ => "inf".toList
  -- Whether it is written as zero counts, not whether it is zero.
  let isZero := x.toRat?.isSome &&
    (text.takeWhile (· != 'e')).all fun c => c == '0' || c == '.'
  let text := if capital then text.map Char.toUpper else text
  let negative := x.isNegative && !(style.plainZero && isZero)
  let digits := text.takeWhile Char.isDigit
  let tail := text.drop digits.length ++ if percent then ['%'] else []
  return style.layNumber negative [] digits tail

/-- The character with a number, in a style. -/
def presentCharacter (style : FieldStyle) (n : Int) : Except Fault (List Char) := do
  if style.sign.isSome then throw (.field (.notWithCharacter "Sign"))
  if style.alternate then throw (.field (.notWithCharacter "Alternate form (#)"))
  if n < -indexLimit - 1 ∨ indexLimit < n then throw (.field .characterSize)
  if n < 0 ∨ 0x110000 ≤ n then throw (.field .characterRange)
  if 0xD800 ≤ n ∧ n < 0xE000 then throw (.unsupported "half a character")
  return style.layNumber false [] [] [Char.ofNat n.toNat]

/-- The base of a code, and the mark of that base. -/
def baseOfCode : Char → Nat × List Char
  | 'b' => (2, ['0', 'b'])
  | 'o' => (8, ['0', 'o'])
  | 'x' => (16, ['0', 'x'])
  | 'X' => (16, ['0', 'X'])
  | _ => (10, [])

/-- An integer in a style. -/
def presentInteger (typeName : String) (n : Int) (style : List Char) :
    Except Fault (List Char) := do
  let style ← (FieldStyle.read typeName '>' (some 'd') style).mapError .field
  let code := style.code.getD 'd'
  if "eEfFgG%".toList.contains code then
    presentFloat style (← floatOf n)
  else if !"bcdoxXn".toList.contains code then throw (.field (.unknownCode code typeName))
  else
    forbid style.precision.isSome "Precision" "integer"
    forbid style.plainZero "Negative zero coercion (z)" "integer"
    if code == 'c' then presentCharacter style n
    else
      let (base, mark) := baseOfCode code
      let digits ← if base = 10 then (·.toList) <$> integerText n.natAbs
        else pure (Nat.toDigits base n.natAbs)
      let digits := if code == 'X' then digits.map Char.toUpper else digits
      return style.layNumber (n < 0) (if style.alternate then mark else []) digits []

/-- A value in the style of a field. -/
def present (v : Value) (style : List Char) : Except Fault (List Char) := do
  if style.isEmpty then return (← v.text).toList
  match v with
  | .str s => presentText s.toList style
  | .float x =>
    let style ← (FieldStyle.read "float" '>' Option.none style).mapError .field
    match style.code with
    | Option.none => presentFloat style x
    | some c =>
      if "eEfFgGn%".toList.contains c then presentFloat style x
      else throw (.field (.unknownCode c "float"))
  | v =>
    match v.integer? with
    | some n => presentInteger v.typeName n style
    | Option.none => throw (.field (.noStyles v.typeName))

end Curly.Value
