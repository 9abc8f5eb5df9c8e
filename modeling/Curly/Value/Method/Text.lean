import Curly.Text.Ascii
import Curly.Text.Lines
import Curly.Text.Padding
import Curly.Text.Unicode.Class
import Curly.Value.Field
import Curly.Value.Method.Coding
import Curly.Value.Method.Mapping

/-!
Methods of texts and of bytes. Most are the same for both: bytes are taken as the characters of the
same numbers, and a `TextKind` says where the two differ.
-/

namespace Curly

open Curly.Text

/-- What tells texts and bytes apart: how they are made and read, their classes of characters, and
what is said of arguments that do not fit. -/
structure TextKind where
  typeName : String
  make : List Char → Value
  chars? : Value → Option (List Char)
  isBlank : Char → Bool
  isLineEnd : Char → Bool
  /-- What is searched for. -/
  pattern : Value → Except Fault (List Char)
  missing : Fault
  tupleItem : (function type : String) → Fault
  trimmed : (function type : String) → Fault
  separator : (type : String) → Fault
  divider : (type : String) → Fault
  replaced : (position : Nat) → Value → Fault
  affix : (function : String) → Value → Fault
  item : (position : Nat) → (type : String) → Fault
  /-- The one character that a field is filled with. -/
  fill : (function : String) → Value → Except Fault Char

namespace TextKind

/-- The one character that a text consists of. -/
def fillOfText : Value → Except Fault Char
  | .str s =>
    match s.toList with
    | [c] => .ok c
    | _ => .error .fillLength
  | v => .error (.fillType v.typeName)

/-- Texts. -/
def text : TextKind where
  typeName := "str"
  make := Value.ofChars
  chars?
    | .str s => some s.toList
    | _ => none
  isBlank := isSpace
  isLineEnd := Text.isLineEnd
  pattern := Value.textOr .mustBeText
  missing := .noSubstring
  tupleItem := .tupleItem
  trimmed f _ := .stripArgument f
  separator := .mustBeTextOrNone
  divider := .mustBeText
  replaced i v := .argumentText "replace" i v.givenName
  affix f v := .argumentIsText f v.givenName
  item := .sequenceItem
  fill _ := fillOfText

/-- Bytes as the characters of the same numbers. -/
def latin (b : List UInt8) : List Char := b.map fun n => Char.ofNat n.toNat

/-- Bytes that are searched for, or one byte by its number. -/
def bytePattern : Value → Except Fault (List Char)
  | .bytes b => .ok (latin b)
  | v =>
    match v.integer? with
    | some n =>
      if 0 ≤ n ∧ n < 256 then .ok [Char.ofNat n.toNat] else .error .byteRange
    | none => .error (.integerOrBytes v.typeName)

/-- The one byte that a field is filled with. -/
def fillOfBytes (function : String) : Value → Except Fault Char
  | .bytes [n] => .ok (Char.ofNat n.toNat)
  | v => .error (.fillByte function v.typeName)

/-- Bytes. -/
def bytes : TextKind where
  typeName := "bytes"
  make s := .bytes (s.map fun c => UInt8.ofNat c.toNat)
  chars?
    | .bytes b => some (latin b)
    | _ => none
  isBlank := Ascii.isBlank
  isLineEnd := Ascii.isLineEnd
  pattern := bytePattern
  missing := .noSubsection
  tupleItem _ := .notBytes
  trimmed _ := .notBytes
  separator := .notBytes
  divider := .notBytes
  replaced _ v := .notBytes v.typeName
  affix _ v := .notBytes v.typeName
  item := .bytesItem
  fill := fillOfBytes

variable (k : TextKind)

/-- The characters of a value, which must be of the kind. -/
def charsFor (fault : Value → Fault) (v : Value) : Except Fault (List Char) :=
  match k.chars? v with
  | some s => .ok s
  | none => .error (fault v)

/-- The characters of a value; what is said where it is not of the kind names its type. -/
def charsOr (fault : String → Fault) (v : Value) : Except Fault (List Char) :=
  k.charsFor (fault ·.typeName) v

/-- Pieces as a list. -/
def list (pieces : List (List Char)) : Value := .list (pieces.map k.make)

/-- The name of a method. -/
def methodName (name : String) : String := k.typeName ++ "." ++ name

/-- The pieces of a text between separators, or its words. -/
def pieces (sep : Option Value) (limit : Nat) (s : List Char) : Except Fault (List (List Char)) :=
  match sep with
  | none | some .none => .ok (cutWords k.isBlank limit s)
  | some v => do
    let sep ← k.charsOr k.separator v
    if sep.isEmpty then throw .emptySeparator else return Text.splitOn sep limit s

/-- The pieces of a text, cut from its end. -/
def piecesFromEnd (sep : Option Value) (limit : Nat) (s : List Char) :
    Except Fault (List (List Char)) := do
  let sep := sep.map fun v => ((k.chars? v).map (k.make ·.reverse)).getD v
  return ((← k.pieces sep limit s.reverse).map List.reverse).reverse

/-- A text cut at the first separator, with the separator. -/
def partitionAt (sep : Value) (s : List Char) : Except Fault Value := do
  let sep ← k.charsOr k.divider sep
  if sep.isEmpty then throw .emptySeparator
  let parts := match cut sep s with
    | some (before, rest) => [before, sep, rest]
    | none => [s, [], []]
  return .tuple (parts.map k.make)

/-- A text cut at the last separator, with the separator. -/
def partitionAtEnd (sep : Value) (s : List Char) : Except Fault Value := do
  let sep ← k.charsOr k.divider sep
  if sep.isEmpty then throw .emptySeparator
  let parts := match cut sep.reverse s.reverse with
    | some (after, before) => [before.reverse, sep, after.reverse]
    | none => [[], [], s]
  return .tuple (parts.map k.make)

/-- Joins texts. -/
def joinAll (sep : List Char) (items : List Value) : Except Fault (List Char) := do
  let texts ← items.zipIdx.mapM fun (v, i) => k.charsOr (k.item i) v
  return joinWith sep texts

/-- What is searched for, and between which bounds. -/
def searchOf (name : String) (a : Arguments) :
    Except Fault (List Char × Option Int × Option Int) := do
  a.noKeywords (k.methodName name)
  let args ← a.take name 1 3
  let bounds ← Value.searchBounds args
  return (← k.pattern (Value.argument args 0), bounds)

/-- Searches a text between bounds. -/
def search (name : String) (a : Arguments) (s : List Char) : Except Fault Value := do
  let (pat, lower, upper) ← k.searchOf name a
  let found? := do
    let (start, part) ← Value.window? s.length lower upper s
    let i ← if name == "rfind" || name == "rindex" then findLast pat part else find pat part
    return start + i
  match found? with
  | some i => return .int i
  | none => if name == "index" || name == "rindex" then throw k.missing else return .int (-1)

/-- Counts a text between bounds. -/
def count (a : Arguments) (s : List Char) : Except Fault Value := do
  let (pat, lower, upper) ← k.searchOf "count" a
  match Value.window? s.length lower upper s with
  | some (_, part) => return .int (occurrences pat part)
  | none => return .int 0

/-- Whether a text begins or ends with another, or with one of several. -/
def edge (name : String) (test : List Char → List Char → Bool) (a : Arguments) (s : List Char) :
    Except Fault Value := do
  a.noKeywords (k.methodName name)
  let args ← a.take name 1 3
  let (lower, upper) ← Value.searchBounds args
  let part? := (Value.window? s.length lower upper s).map (·.2)
  let holds (pat : List Char) : Bool := (part?.map (test pat)).getD false
  match Value.argument args 0 with
  | .tuple pats =>
    -- the first that fits decides, so what follows it may be anything
    let rec any : List Value → Except Fault Bool
      | [] => .ok false
      | v :: rest => do
        if holds (← k.charsOr (k.tupleItem name) v) then return true else any rest
    return .bool (← any pats)
  | v => return .bool (holds (← k.charsOr (.firstArgument k.typeName name) v))

/-- Trims a text: blanks, or the characters of another text. -/
def trim (name : String) (a : Arguments) (s : List Char) : Except Fault Value := do
  a.noKeywords (k.methodName name)
  let args ← a.expect name 0 1
  let drop ← match args with
    | [] | [.none] => pure k.isBlank
    | v :: _ => do
      let cs ← k.charsOr (k.trimmed name) v
      pure cs.contains
  let front (s : List Char) := s.dropWhile drop
  let back (s : List Char) := (s.reverse.dropWhile drop).reverse
  return k.make (if name == "lstrip" then front s else if name == "rstrip" then back s
    else back (front s))

/-- Pads a text to a width. -/
def padBy (name : String) (pad : Nat → Char → List Char → List Char) (a : Arguments)
    (s : List Char) : Except Fault Value := do
  a.noKeywords (k.methodName name)
  let args ← a.expect name 1 2
  let width ← (Value.argument args 0).size
  let fill ← (args[1]?.map (k.fill name)).getD (.ok ' ')
  if sizeLimit < width.toNat then throw .outOfMemory
  return k.make (pad width.toNat fill s)

/-- Replaces a text in another. -/
def replaceIn (a : Arguments) (s : List Char) : Except Fault Value := do
  a.noKeywords (k.methodName "replace")
  let args ← a.expect "replace" 2 3
  let old ← k.charsFor (k.replaced 1) (Value.argument args 0)
  let new ← k.charsFor (k.replaced 2) (Value.argument args 1)
  let limit ← Value.limitOf (s.length + 1) args[2]?
  return k.make (Text.replace old new limit s)

/-- Calls a method that texts and bytes share. -/
def call? (name : String) (a : Arguments) (s : List Char) : Option (Except Fault Value) :=
  let function := k.methodName name
  match name with
  | "find" | "rfind" | "index" | "rindex" => some (k.search name a s)
  | "count" => some (k.count a s)
  | "startswith" => some (k.edge name (fun pat s => pat.isPrefixOf s) a s)
  | "endswith" => some (k.edge name (fun pat s => pat.isSuffixOf s) a s)
  | "strip" | "lstrip" | "rstrip" => some (k.trim name a s)
  | "center" => some (k.padBy name Text.center a s)
  | "ljust" => some (k.padBy name padEnd a s)
  | "rjust" => some (k.padBy name padStart a s)
  | "zfill" => some do
    let width ← (← a.single function).size
    if sizeLimit < width.toNat then throw .outOfMemory
    return k.make (padZeros width.toNat s)
  | "replace" => some (k.replaceIn a s)
  | "split" | "rsplit" => some do
    let args ← a.optional name ["sep", "maxsplit"]
    let limit ← Value.limitOf s.length (Value.option? args 1)
    let cutter := if name == "split" then k.pieces else k.piecesFromEnd
    k.list <$> cutter (Value.option? args 0) limit s
  | "splitlines" => some do
    let args ← a.optional name ["keepends"]
    let keepEnds ← Value.countOr 0 (Value.option? args 0)
    return k.list (linesFrom k.isLineEnd (keepEnds != 0) [] s)
  | "expandtabs" => some do
    let args ← a.optional name ["tabsize"]
    let width ← Value.countOr 8 (Value.option? args 0)
    return k.make (expandTabs width.toNat 0 s)
  | "partition" => some do k.partitionAt (← a.single function) s
  | "rpartition" => some do k.partitionAtEnd (← a.single function) s
  | "removeprefix" => some do
    let pat ← k.charsFor (k.affix name) (← a.single function)
    return k.make (if pat.isPrefixOf s then s.drop pat.length else s)
  | "removesuffix" => some do
    let pat ← k.charsFor (k.affix name) (← a.single function)
    return k.make (if pat.isSuffixOf s then s.take (s.length - pat.length) else s)
  | "join" => some do
    match (← a.single function).elements? with
    | some items => k.make <$> k.joinAll s items
    | none => throw .notJoinable
  | _ => none

end TextKind

namespace Value

/-- Joins texts. -/
def joinTexts (sep : List Char) (items : List Value) : Except Fault (List Char) :=
  TextKind.text.joinAll sep items

/-- The result of a method of texts that takes no arguments. -/
def plainOfText? (name : String) (s : List Char) : Option Value :=
  match name with
  | "capitalize" => some (ofChars (Unicode.capitalize s))
  | "casefold" => some (ofChars (Unicode.toFolded s))
  | "lower" => some (ofChars (Unicode.toLower s))
  | "swapcase" => some (ofChars (Unicode.swapCase s))
  | "title" => some (ofChars (Unicode.toTitle s))
  | "upper" => some (ofChars (Unicode.toUpper s))
  | "isalnum" => some (.bool (Unicode.isAll Unicode.isAlphanumeric s))
  | "isalpha" => some (.bool (Unicode.isAll Unicode.isLetter s))
  | "isascii" => some (.bool (s.all (·.toNat < 128)))
  | "isdecimal" => some (.bool (Unicode.isAll Unicode.isDecimal s))
  | "isdigit" => some (.bool (Unicode.isAll Unicode.isDigit s))
  | "isidentifier" => some (.bool (Unicode.isIdentifierText s))
  | "islower" => some (.bool (Unicode.isLowerText s))
  | "isnumeric" => some (.bool (Unicode.isAll Unicode.isNumeric s))
  | "isprintable" => some (.bool (s.all Unicode.isPrintable))
  | "isspace" => some (.bool (Unicode.isAll isSpace s))
  | "istitle" => some (.bool (Unicode.isTitleText s))
  | "isupper" => some (.bool (Unicode.isUpperText s))
  | _ => Option.none

/-- The result of a method of bytes that takes no arguments. -/
def plainOfBytes? (name : String) (s : List Char) : Option Value :=
  let make := TextKind.bytes.make
  let all (p : Char → Bool) : Value := .bool (Unicode.isAll p s)
  match name with
  | "capitalize" => some (make (Ascii.capitalize s))
  | "lower" => some (make (s.map Char.toLower))
  | "swapcase" => some (make (s.map Ascii.swapCase))
  | "title" => some (make (Ascii.toTitle false s))
  | "upper" => some (make (s.map Char.toUpper))
  | "isalnum" => some (all Char.isAlphanum)
  | "isalpha" => some (all Char.isAlpha)
  | "isascii" => some (.bool (s.all (·.toNat < 128)))
  | "isdigit" => some (all Char.isDigit)
  | "islower" => some (.bool (Ascii.isLower s))
  | "isspace" => some (all Ascii.isBlank)
  | "istitle" => some (.bool (Ascii.isTitle false false s))
  | "isupper" => some (.bool (Ascii.isUpper s))
  | _ => Option.none

/-- Calls a method of a text. -/
def callText (s : List Char) (name : String) (a : Arguments) : Except Fault Value := do
  let function := TextKind.text.methodName name
  if let some v := plainOfText? name s then
    a.empty function
    return v
  if let some r := TextKind.text.call? name a s then return ← r
  match name with
  | "encode" => encodeText a s
  | "translate" => translate s (← a.single function)
  | "maketrans" => tableOf a
  | "format" =>
    let named := a.keywords.map fun (name, v) => (Value.str name, v)
    fillText ⟨some a.positional, .dict named⟩ s
  | "format_map" => fillText ⟨Option.none, ← a.single function⟩ s
  | _ => throw (.unsupported function)

/-- Calls a method of bytes. -/
def callBytes (b : List UInt8) (name : String) (a : Arguments) : Except Fault Value := do
  let function := TextKind.bytes.methodName name
  let s := TextKind.latin b
  if let some v := plainOfBytes? name s then
    a.empty function
    return v
  if let some r := TextKind.bytes.call? name a s then return ← r
  match name with
  | "decode" => decodeBytes a b
  | "hex" => hexBytes a b
  | _ => throw (.unsupported function)

end Value

end Curly
