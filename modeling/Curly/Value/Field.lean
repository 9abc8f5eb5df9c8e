import Curly.Value.Attribute
import Curly.Value.Field.Presentation
import Curly.Value.Index

/-!
Fields: a text is filled in where braces stand. A field names its value by a place among arguments
or by a key, goes on to attributes and items of it, and may have a style, which may have fields
itself.
-/

namespace Curly

/-- A field: the path to its value, how the value is turned into a text, and its style. -/
structure Field where
  path : List Char
  conversion : Option Char := none
  style : List Char := []
  /-- Whether the style has fields itself. -/
  isNested : Bool := false
  deriving DecidableEq, Inhabited

/-- A piece of a text: characters, and perhaps a field behind them. -/
structure FieldPart where
  literal : List Char
  field : Option Field := none
  deriving DecidableEq, Inhabited

namespace Field

/-- The path in front of a text, the character that ends it, and what follows that. Inside square
brackets all other characters are taken as they are. -/
def readPath (inBrackets : Bool) : List Char → Except FieldFault (List Char × Char × List Char)
  | [] => .error .openField
  | c :: s =>
    let more (inBrackets : Bool) := (fun (path, r) => (c :: path, r)) <$> readPath inBrackets s
    if inBrackets then more (c != ']')
    else if c == '\x7b' then .error .braceInName
    else if c == '\x7d' || c == ':' || c == '!' then .ok ([], c, s)
    else more (c == '[')

/-- The style in front of a text up to the brace that closes its field, whether it has fields, and
what follows. -/
def readStyle (depth : Nat) : List Char → Except FieldFault (List Char × Bool × List Char)
  | [] => .error .openStyle
  | c :: s =>
    let more (depth : Nat) (nested : Bool) :=
      (fun (style, inner, r) => (c :: style, nested || inner, r)) <$> readStyle depth s
    if c == '\x7b' then more (depth + 1) true
    else if c == '\x7d' then if depth = 0 then .ok ([], false, s) else more (depth - 1) false
    else more depth false

/-- The field in front of a text, behind its opening brace, and what follows it. -/
def read (s : List Char) : Except FieldFault (Field × List Char) := do
  let (path, stop, s) ← readPath false s
  let styled (conversion : Option Char) (s : List Char) : Except FieldFault (Field × List Char) :=
    do
      let (style, nested, s) ← readStyle 0 s
      return (⟨path, conversion, style, nested⟩, s)
  match stop, s with
  | '!', [] => throw .noConversion
  | '!', c :: '\x7d' :: s => return ({ path, conversion := some c }, s)
  | '!', c :: ':' :: s => styled (some c) s
  | '!', [c] => styled (some c) []
  | '!', _ => throw .conversionEnd
  | ':', s => styled none s
  | _, s => return ({ path }, s)

end Field

/-- The pieces of a text, up to the first fault. Braces that stand doubled are characters. -/
def FieldPart.ofText : (fuel : Nat) → List Char → List (Except FieldFault FieldPart)
  | 0, _ => []
  | fuel + 1, s =>
    let isBrace (c : Char) : Bool := c == '\x7b' || c == '\x7d'
    let literal := s.takeWhile (!isBrace ·)
    match s.drop literal.length with
    | [] => if literal.isEmpty then [] else [.ok { literal }]
    | c :: s =>
      if s.head? == some c then .ok { literal := literal ++ [c] } :: ofText fuel s.tail
      else if c == '\x7d' || s.isEmpty then [.error (.singleBrace c)]
      else
        match Field.read s with
        | .error e => [.error e]
        | .ok (field, s) => .ok { literal, field := some field } :: ofText fuel s

/-- Whether fields without a place are counted, or have places, as far as it is known. -/
inductive Numbering
  | undecided
  | automatic (next : Nat)
  | manual
  deriving DecidableEq, Inhabited

/-- Where the values of fields come from: places, unless there are none, and what has the keys. -/
structure FieldSource where
  places : Option (List Value)
  named : Value

/-- Filling in goes through the fields in turn. -/
abbrev Filling := StateT Numbering (Except Fault)

namespace Field

/-- The number that a text is, if it is one. -/
def place? (s : List Char) : Except FieldFault (Option Nat) := do
  match ← FieldStyle.number? s with
  | (some n, []) => return some n
  | _ => return none

/-- Goes on from a value to attributes and items. -/
def follow : (fuel : Nat) → Value → List Char → Except Fault Value
  | 0, v, _ => .ok v
  | fuel + 1, v, s => do
    match s with
    | [] => return v
    | '.' :: s =>
      let name := s.takeWhile fun c => c != '.' && c != '['
      if name.isEmpty then throw (.field .emptyStep)
      follow fuel (← v.attr (String.ofList name)) (s.drop name.length)
    | '[' :: s =>
      let key := s.takeWhile (· != ']')
      let n ← (place? key).mapError .field
      match s.drop key.length with
      | [] => throw (.field .openBracket)
      | _ :: rest =>
        if key.isEmpty then throw (.field .emptyStep)
        follow fuel (← v.subscript ((n.map fun n => .int n).getD (.ofChars key))) rest
    | _ => throw (.field .afterBracket)

/-- The number of the place of a field, if it has one; without a place it gets the next one. -/
def placeOf (first : List Char) : Filling (Option Nat) := do
  let given ← liftM ((place? first).mapError Fault.field)
  match ← get, given with
  | .manual, none =>
    if first.isEmpty then throw (Fault.field .toAutomatic) else return none
  | .automatic _, some _ => throw (Fault.field .toManual)
  | _, some n =>
    set Numbering.manual
    return some n
  | numbering, none =>
    if !first.isEmpty then return none
    let n := match numbering with
      | .automatic n => n
      | _ => 0
    set (Numbering.automatic (n + 1))
    return some n

/-- The value of a field. -/
def valueOf (source : FieldSource) (path : List Char) : Filling Value := do
  let first := path.takeWhile fun c => c != '.' && c != '['
  let v ← match ← placeOf first, source.places with
    | none, _ => liftM (source.named.subscript (.ofChars first))
    | some _, none => throw (Fault.field .placeInMapping)
    | some n, some vs =>
      match vs[n]? with
      | some v => pure v
      | none => throw (Fault.field (.missingPlace n))
  follow (path.length + 1) v (path.drop first.length)

/-- The text that a conversion makes of a value. -/
def convert (v : Value) : Char → Except Fault Value
  | 'r' => .str <$> v.written
  | 's' => .str <$> v.text
  | 'a' => do
    let s := (← v.written).toList
    return .ofChars (s.flatMap fun c => if c.toNat < 128 then [c] else Text.Quoted.byCode c)
  | c => .error (.field (.unknownConversion c))

end Field

/-- The text of a piece, when the styles with fields in them are filled in first. -/
def FieldPart.fill (source : FieldSource) (fillStyle : List Char → Filling (List Char))
    (part : FieldPart) : Filling (List Char) := do
  match part.field with
  | none => return part.literal
  | some field =>
    let v ← Field.valueOf source field.path
    let v ← match field.conversion with
      | some c => liftM (Field.convert v c)
      | none => pure v
    let style ← if field.isNested then fillStyle field.style else pure field.style
    return part.literal ++ (← liftM (v.present style))

/-- A text with its fields filled in. Styles may have fields up to a depth. -/
def fillParts (source : FieldSource) : (depth : Nat) → List Char → Filling (List Char)
  | 0, _ => throw (Fault.field .tooDeep)
  | depth + 1, s => do
    let parts ← (FieldPart.ofText (s.length + 1) s).mapM fun part => do
      (← liftM (part.mapError Fault.field)).fill source (fillParts source depth)
    return parts.flatten

/-- A text with its fields filled in. The style of a field may have fields, but not those in it. -/
def fillText (source : FieldSource) (s : List Char) : Except Fault Value := do
  let (filled, _) ← (fillParts source 2 s).run .undecided
  return .ofChars filled

end Curly
