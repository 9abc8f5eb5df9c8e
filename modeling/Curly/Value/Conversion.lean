import Curly.Value.Arithmetic
import Curly.Value.Index
import Curly.Value.Text

/-!
Conversions: values read as integers, floating-point numbers or dictionaries, and numbers rounded.
-/

namespace Curly.Value

/-- A floating-point number without its fraction. -/
def truncate (x : Double) : Except Fault Int :=
  match x, x.toRat? with
  | _, some q => .ok (Double.truncRat q)
  | .nan, _ => .error .nanToInteger
  | _, _ => .error .infinityToInteger

/-- How much of a misread text is shown. -/
def shownLength : Nat := 200

/-- An integer read from a text; a misread text is shown as it is written. -/
def readInteger (base : Nat) (s : List Char) (v : Value) : Except Fault Value :=
  match Reading.intIn base s with
  | .ok n => .ok (.int n)
  | .tooLong n => .error (.numberTooLong (some n))
  | .malformed => do
    let shown := String.ofList ((← v.written).toList.take shownLength)
    throw (.invalidInteger base shown)

/-- Bytes as characters. -/
def charsOf (b : List UInt8) : List Char := b.map fun n => Char.ofNat n.toNat

/-- A value as an integer: numbers lose their fraction, texts are read. -/
def toInteger (v : Value) : Except Fault Value :=
  match v with
  | .float x => .int <$> truncate x
  | .str s => readInteger 10 s.toList v
  | .bytes b => readInteger 10 (charsOf b) v
  | v =>
    match v.integer? with
    | some n => .ok (.int n)
    | Option.none => .error (.integerArgument v.typeName)

/-- A text as an integer in a base. -/
def toIntegerIn (v base : Value) : Except Fault Value := do
  let base ← base.index
  if (base < 2 ∧ base ≠ 0) ∨ 36 < base then throw .baseRange
  match v with
  | .str s => readInteger base.toNat s.toList v
  | .bytes b => readInteger base.toNat (charsOf b) v
  | _ => throw .baseWithoutText

/-- A floating-point number read from a text. -/
def readFloat (s : List Char) (v : Value) : Except Fault Value :=
  match Reading.float? s with
  | some x => .ok (.float x)
  | Option.none => do throw (.invalidFloat (← v.written))

/-- A value as a floating-point number. -/
def toFloat (v : Value) : Except Fault Value :=
  match v with
  | .float x => .ok (.float x)
  | .str s => readFloat s.toList v
  | .bytes b => readFloat (charsOf b) v
  | v =>
    match v.integer? with
    | some n => .float <$> floatOf n
    | Option.none => .error (.floatArgument v.typeName)

/-- An integer rounded to a power of ten, a half to the even neighbour. -/
def roundInteger (n digits : Int) : Int :=
  if 0 ≤ digits then n
  else
    let unit := Nat.pow 10 digits.natAbs
    let m : Int := roundHalfEven n.natAbs unit * unit
    if n < 0 then -m else m

/-- A floating-point number rounded to so many decimal places, a half of its exact value to the
even neighbour. -/
def roundFloat (x : Double) (digits : Int) : Except Fault Value :=
  match x.toRat? with
  | Option.none => .ok (.float x)
  | some q =>
    if 323 < digits then .ok (.float x)
    else if digits < -308 then .ok (.float (.zero x.isNegative))
    else
      let y := Double.ofRat x.isNegative (roundRat (q * tenPow digits) * tenPow (-digits))
      if y.isInfinite then .error .roundedTooLarge else .ok (.float y)

/-- A number rounded: to an integer, or to so many decimal places. -/
def round (v : Value) (digits : Option Value) : Except Fault Value := do
  match v with
  | .float x =>
    match digits with
    | Option.none | some .none =>
      match x, x.toRat? with
      | _, some q => return .int (roundRat q)
      | .nan, _ => throw .nanToInteger
      | _, _ => throw .infinityToInteger
    | some d => roundFloat x (← d.index)
  | v =>
    match v.integer? with
    | Option.none => throw (.noRound v.typeName)
    | some n =>
      match digits with
      | Option.none | some .none => return .int n
      | some d => return .int (roundInteger n (← d.index))

/-- The size of a number. -/
def absolute : Value → Except Fault Value
  | .float x | .imaginary x => .ok (.float x.abs)
  | v =>
    match v.integer? with
    | some n => .ok (.int n.natAbs)
    | Option.none => .error (.badAbsolute v.typeName)

/-- Adds the pair that a value is to the entries of a dictionary. -/
def addPair (entries : List (Value × Value)) (pair : Value × Nat) :
    Except Fault (List (Value × Value)) :=
  match pair.1.elements? with
  | some [k, v] =>
    match k.unhashable? with
    | some t => .error (.unhashable t)
    | Option.none => .ok (insert k v entries)
  | some vs => .error (.pairLength pair.2 vs.length)
  | Option.none => .error (.noPair pair.2)

/-- The entries that a value brings along where a dictionary is spread out: those of a dictionary.
What offers keys would have to answer a call for them. -/
def spread (v : Value) : Except Fault (List (Value × Value)) :=
  match v with
  | .dict entries => .ok entries
  | .object fields =>
    match fields.lookup "keys" with
    | some keys => .error (.notCallable keys.typeName)
    | Option.none => .error (.notMapping v.typeName)
  | v => .error (.notMapping v.typeName)

/-- The entries of the dictionary that a value makes: those that it offers, or pairs. -/
def toEntries (v : Value) : Except Fault (List (Value × Value)) :=
  match v.spread, v.elements? with
  | .ok entries, _ => .ok entries
  | .error (.notMapping _), some vs => vs.zipIdx.foldlM addPair []
  | .error (.notMapping t), Option.none => .error (.notIterable t)
  | .error f, _ => .error f

end Curly.Value
