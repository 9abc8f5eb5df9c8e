import Curly.Number.Reading
import Curly.Yaml.Scalar

/-!
Tokens of YAML: scalars and their properties, the marks of collections, and those that indentation
implies.
-/

namespace Curly.Yaml

/-- Tokens. -/
inductive Token
  | documentStart
  | documentEnd
  /-- The version of YAML that a document is written in. -/
  | version (major minor : Nat)
  /-- A handle that stands for the beginning of tags. -/
  | shorthand (handle start : String)
  | sequenceStart
  | mappingStart
  | blockEnd
  | flowSequenceStart
  | flowSequenceEnd
  | flowMappingStart
  | flowMappingEnd
  | flowEntry
  | entry
  | key
  | value
  | reference (name : String)
  | anchor (name : String)
  | tag (handle suffix : String)
  | scalar (isPlain : Bool) (text : String)
  deriving DecidableEq, Inhabited

/-! ## Names -/

/-- What may follow the name of an anchor besides a gap. -/
def anchorEnds : List Char := ['?', ':', ',', ']', '\x7d', '%', '@', Char.ofNat 0x60]

/-- The name of an anchor, or of what refers to one. -/
def anchorName (s : List Char) : Except Defect (List Char) :=
  let name := s.takeWhile isWordChar
  let rest := s.drop name.length
  if !name.isEmpty && (atGap rest || rest.head?.any (anchorEnds.contains ·)) then .ok name
  else .error .anchorName

/-! ## Tags -/

/-- The characters of tags besides those of names and escapes. -/
def tagChars : List Char :=
  [';', '/', '?', ':', '@', '&', '=', '+', '$', '.', '!', '~', '*', '\'', '(', ')']

/-- Further characters of tags that stand in angle brackets. -/
def verbatimChars : List Char := [',', '[', ']']

/-- Characters of a tag, with those that are written by their codes, and how many characters write
them. -/
def tagText (verbatim : Bool) : List Char → Except Defect (List Char × Nat)
  | '%' :: a :: b :: cs => do
    if !isHexDigit a || !isHexDigit b then throw .tagForm
    let (text, n) ← tagText verbatim cs
    return (Char.ofNat (Text.Unicode.readHex [a, b]) :: text, n + 3)
  | c :: cs =>
    if c == '%' then .error .tagForm
    else if isWordChar c || tagChars.contains c || (verbatim && verbatimChars.contains c) then
      (fun (text, n) => (c :: text, n + 1)) <$> tagText verbatim cs
    else .ok ([], 0)
  | [] => .ok ([], 0)

/-- A handle of tags: an exclamation mark, and perhaps a name with a second one. -/
def tagHandle (s : List Char) : List Char :=
  let name := s.tail.takeWhile isWordChar
  if (s.drop (name.length + 1)).head? == some '!' then '!' :: name ++ ['!'] else '!' :: name

/-- Whether a handle is a closed one. -/
def isClosed (handle : List Char) : Bool := 2 ≤ handle.length && handle.getLast? == some '!'

/-- A tag: its handle, its suffix, and how many characters write it. Tags in angle brackets have no
handle, and neither has the one that is an exclamation mark only. -/
def tagParts (s : List Char) : Except Defect (List Char × List Char × Nat) := do
  if s.tail.head? == some '<' then
    let (text, n) ← tagText true (s.drop 2)
    if text.isEmpty || (s.drop (n + 2)).head? != some '>' then throw .tagForm
    return ([], text, n + 3)
  let handle := tagHandle s
  if isClosed handle then
    let (text, n) ← tagText false (s.drop handle.length)
    if text.isEmpty then throw .tagForm
    return (handle, text, handle.length + n)
  -- A handle that is not closed is the start of the suffix.
  let (text, n) ← tagText false (s.drop handle.length)
  let suffix := handle.tail ++ text
  if suffix.isEmpty then return ([], ['!'], 1)
  return (['!'], suffix, handle.length + n)

/-- The token of a tag, and how many characters write it. -/
def tagToken (flow : Bool) (s : List Char) : Except Defect (Token × Nat) := do
  let (handle, suffix, n) ← tagParts s
  let rest := s.drop n
  if !atGap rest && !(flow && rest.head? == some ',') then throw .tagForm
  return (.tag (String.ofList handle) (String.ofList suffix), n)

/-! ## Directives -/

/-- The longest version number. -/
def versionLength : Nat := 9

/-- A version number. -/
def versionNumber (s : List Char) : Except Defect (Nat × List Char) :=
  let ds := s.takeWhile Char.isDigit
  if ds.isEmpty || versionLength < ds.length then .error .directive
  else .ok (Reading.natOf ds, s.drop ds.length)

/-- The token of a directive, which stands behind its mark, and what follows it. -/
def directive (s : List Char) : Except Defect (Token × List Char) := do
  let name := s.takeWhile isWordChar
  let rest := s.drop name.length
  if name.isEmpty || !atGap rest then throw .directive
  let rest := rest.dropWhile isBlank
  if name == "YAML".toList then
    let (major, rest) ← versionNumber rest
    if rest.head? != some '.' then throw .directive
    let (minor, rest) ← versionNumber rest.tail
    return (.version major minor, rest)
  if name == "TAG".toList then
    if rest.head? != some '!' then throw .directive
    let handle := tagHandle rest
    let rest := rest.drop handle.length
    if !(handle == ['!'] || isClosed handle) || !rest.head?.any isBlank then throw .directive
    let rest := rest.dropWhile isBlank
    let (start, n) ← tagText true rest
    if start.isEmpty || !atGap (rest.drop n) then throw .directive
    return (.shorthand (String.ofList handle) (String.ofList start), rest.drop n)
  throw .directive

end Curly.Yaml
