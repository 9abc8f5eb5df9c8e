import Curly.Yaml.Token

/-!
The tokens of a document. What turns out to be a key only at the colon behind it gets its mark
afterwards: the lexer remembers where a key may have begun on the current line. Lines that are
indented further begin collections and lines that are indented less end them, but not inside
brackets and braces.
-/

namespace Curly.Yaml

/-- Where a key may have begun: the tokens before it, its place, and whether it has to be one. -/
structure KeyStart where
  count : Nat
  mark : Mark
  required : Bool
  deriving Inhabited

/-- The state of the lexer. Tokens are kept backwards; `indents` holds the indentations of the
collections around, the innermost first, and `outer` where keys may have begun outside of the
brackets and braces around, the innermost first. -/
structure Lexer where
  cursor : Cursor
  tokens : List Token := []
  count : Nat := 0
  indents : List Nat := []
  keyAllowed : Bool := true
  start : Option KeyStart := none
  outer : List (Option KeyStart) := []
  deriving Inhabited

/-- The longest key. -/
def keyLength : Nat := 1024

/-- Whether what began somewhere cannot be a key any more: keys are short and stay on their line. -/
def KeyStart.isStale (k : KeyStart) (m : Mark) : Bool :=
  k.mark.line < m.line || k.mark.index + keyLength < m.index

namespace Lexer

/-- Whether the lexer is inside brackets or braces. -/
def inFlow (l : Lexer) : Bool := !l.outer.isEmpty

/-- How far the innermost collection is indented, if there is any. -/
def indent? (l : Lexer) : Option Nat := l.indents.head?

/-- The least indentation of what stands in the innermost collection. -/
def inner (l : Lexer) : Nat := (l.indent?.map (· + 1)).getD 0

/-- Adds a token. -/
def push (t : Token) (l : Lexer) : Lexer :=
  { l with tokens := t :: l.tokens, count := l.count + 1 }

/-- Adds a token behind the first `n`. -/
def pushAt (n : Nat) (t : Token) (l : Lexer) : Lexer :=
  let k := l.count - n
  { l with tokens := l.tokens.take k ++ t :: l.tokens.drop k, count := l.count + 1 }

/-- Moves past so many characters. -/
def advance (n : Nat) (l : Lexer) : Lexer := { l with cursor := l.cursor.advance n }

/-- Forgets where a key may have begun. -/
def forget (l : Lexer) : Except Defect Lexer :=
  if l.start.any (·.required) then .error .keyWithoutColon else .ok { l with start := none }

/-- Forgets what cannot be a key any more. -/
def forgetStale (l : Lexer) : Except Defect Lexer :=
  let isStale (k : KeyStart) : Bool := k.isStale l.cursor.mark
  let keep (k : Option KeyStart) : Option KeyStart := k.filter (!isStale ·)
  if (l.start :: l.outer).any (·.any fun k => k.required && isStale k) then .error .keyWithoutColon
  else .ok { l with start := keep l.start, outer := l.outer.map keep }

/-- Remembers that a key may begin here. Where a line of a collection begins it has to. -/
def remember (l : Lexer) : Except Defect Lexer :=
  if l.keyAllowed then do
    let required := !l.inFlow && l.indent? == some l.cursor.mark.column
    return { ← l.forget with start := some ⟨l.count, l.cursor.mark, required⟩ }
  else .ok l

/-- Begins a collection at a column, behind the first `n` tokens, if the column is indented
further. -/
def indentTo (column n : Nat) (t : Token) (l : Lexer) : Lexer :=
  if !l.inFlow && l.inner ≤ column then
    { l.pushAt n t with indents := column :: l.indents }
  else l

/-- Ends the collections that are indented further than a column. -/
def dedentAmong (column : Option Nat) : List Nat → Lexer → Lexer
  | [], l => { l with indents := [] }
  | n :: ns, l =>
    if column.all (· < n) then dedentAmong column ns (l.push .blockEnd)
    else { l with indents := n :: ns }

/-- Ends the collections that are indented further than a column, or all of them, outside of
brackets and braces. -/
def dedent (column : Option Nat) (l : Lexer) : Lexer :=
  if l.inFlow then l else dedentAmong column l.indents l

/-- Moves past blanks, comments and line ends, which allow a key outside of brackets and braces.
Where a key may begin tabs are no blanks. -/
def skipGap : (fuel : Nat) → Lexer → Lexer
  | 0, l => l
  | fuel + 1, l =>
    let tabs := l.inFlow || !l.keyAllowed
    let c := (l.cursor.skip fun c => c == ' ' || (tabs && c == '\t')).skipComment
    match c.rest with
    | b :: _ =>
      if isBreak b then
        skipGap fuel { l with cursor := c.advance 1, keyAllowed := l.keyAllowed || !l.inFlow }
      else { l with cursor := c }
    | [] => { l with cursor := c }

/-! ## Tokens, by what they begin with -/

/-- A marker of documents, or the end of the text, ends all collections. -/
def endBlocks (l : Lexer) : Except Defect Lexer := do
  return { ← (l.dedent none).forget with keyAllowed := false }

/-- A directive. -/
def lexDirective (l : Lexer) : Except Defect Lexer := do
  let l ← l.endBlocks
  let c := l.cursor.advance 1
  let (t, rest) ← directive c.rest
  let c := ((c.advance (c.rest.length - rest.length)).skip isBlank).skipComment
  if !atBreak c.rest then throw .directive
  return { l.push t with cursor := c.advance 1 }

/-- A marker of documents. -/
def lexMarker (t : Token) (l : Lexer) : Except Defect Lexer := do
  return ((← l.endBlocks).push t).advance 3

/-- The beginning of brackets or braces. -/
def lexOpening (t : Token) (l : Lexer) : Except Defect Lexer := do
  let l ← l.remember
  return { (l.push t).advance 1 with outer := l.start :: l.outer, start := none, keyAllowed := true }

/-- The end of brackets or braces. -/
def lexClosing (t : Token) (l : Lexer) : Except Defect Lexer := do
  let l ← l.forget
  let l := { (l.push t).advance 1 with keyAllowed := false }
  match l.outer with
  | [] => return l
  | k :: ks => return { l with start := k, outer := ks }

/-- A comma. -/
def lexComma (l : Lexer) : Except Defect Lexer := do
  return { ((← l.forget).push .flowEntry).advance 1 with keyAllowed := true }

/-- A dash. -/
def lexDash (l : Lexer) : Except Defect Lexer := do
  if !l.inFlow && !l.keyAllowed then throw .misplacedEntry
  let l ← (l.indentTo l.cursor.mark.column l.count .sequenceStart).forget
  return { (l.push .entry).advance 1 with keyAllowed := true }

/-- The mark of a key. -/
def lexQuestion (l : Lexer) : Except Defect Lexer := do
  if !l.inFlow && !l.keyAllowed then throw .misplacedKey
  let l ← (l.indentTo l.cursor.mark.column l.count .mappingStart).forget
  return { (l.push .key).advance 1 with keyAllowed := !l.inFlow }

/-- A colon. If a key may have begun on its line that was one. -/
def lexColon (l : Lexer) : Except Defect Lexer := do
  match l.start with
  | some k =>
    let l := (l.pushAt k.count .key).indentTo k.mark.column k.count .mappingStart
    return { (l.push .value).advance 1 with start := none, keyAllowed := false }
  | none =>
    if !l.inFlow && !l.keyAllowed then throw .misplacedValue
    let l := l.indentTo l.cursor.mark.column l.count .mappingStart
    return { (l.push .value).advance 1 with keyAllowed := !l.inFlow }

/-- What may begin a key: a token and the cursor behind it. -/
def lexKey (read : Lexer → Except Defect (Token × Cursor)) (l : Lexer) : Except Defect Lexer := do
  let l ← l.remember
  let (t, c) ← read l
  return { l.push t with cursor := c, keyAllowed := false }

/-- An anchor, or what refers to one. -/
def lexName (token : String → Token) : Lexer → Except Defect Lexer :=
  lexKey fun l => do
    let name ← anchorName l.cursor.rest.tail
    return (token (String.ofList name), l.cursor.advance (name.length + 1))

/-- A tag. -/
def lexTag : Lexer → Except Defect Lexer :=
  lexKey fun l => do
    let (t, n) ← tagToken l.inFlow l.cursor.rest
    return (t, l.cursor.advance n)

/-- A block. -/
def lexBlock (literal : Bool) (l : Lexer) : Except Defect Lexer := do
  let l ← l.forget
  let s ← block literal l.indent? l.cursor
  return { l.push (.scalar false (String.ofList s.text)) with cursor := s.after, keyAllowed := true }

/-- A quoted scalar. -/
def lexQuoted (double : Bool) : Lexer → Except Defect Lexer :=
  lexKey fun l => do
    let s ← quoted double l.cursor
    return (.scalar false (String.ofList s.text), s.after)

/-- A plain scalar. A line end behind it allows a key. -/
def lexPlain (l : Lexer) : Except Defect Lexer := do
  let l ← l.remember
  let s ← plain l.inFlow l.inner l.cursor
  return { l.push (.scalar true (String.ofList s.text)) with cursor := s.after, keyAllowed := s.broken }

/-- The characters that no plain scalar begins with. -/
def plainForbidden : List Char :=
  ['-', '?', ':', ',', '[', ']', '\x7b', '\x7d', '#', '&', '*', '!', '|', '>', '\'', '"', '%', '@',
    Char.ofNat 0x60]

/-- Whether a plain scalar begins with a character in front of others. -/
def beginsPlain (flow : Bool) (c : Char) (cs : List Char) : Bool :=
  !(isGap c || plainForbidden.contains c) || (c == '-' && !cs.head?.any isBlank) ||
    (!flow && (c == '?' || c == ':') && !atGap cs)

/-- Reads the token that begins with a character in front of others. -/
def lexToken (c : Char) (cs : List Char) (l : Lexer) : Except Defect Lexer :=
  let first := l.cursor.mark.column == 0
  let alone := l.inFlow || atGap cs
  -- The order matters: the characters of marks and indicators may also begin plain scalars, which
  -- come last.
  if first && c == '%' then l.lexDirective
  else if first && atMarker '-' (c :: cs) then l.lexMarker .documentStart
  else if first && atMarker '.' (c :: cs) then l.lexMarker .documentEnd
  else if c == '[' then l.lexOpening .flowSequenceStart
  else if c == '\x7b' then l.lexOpening .flowMappingStart
  else if c == ']' then l.lexClosing .flowSequenceEnd
  else if c == '\x7d' then l.lexClosing .flowMappingEnd
  else if c == ',' then l.lexComma
  else if c == '-' && atGap cs then l.lexDash
  else if c == '?' && alone then l.lexQuestion
  else if c == ':' && alone then l.lexColon
  else if c == '*' then l.lexName .reference
  else if c == '&' then l.lexName .anchor
  else if c == '!' then l.lexTag
  else if c == '|' && !l.inFlow then l.lexBlock true
  else if c == '>' && !l.inFlow then l.lexBlock false
  else if c == '\'' then l.lexQuoted false
  else if c == '"' then l.lexQuoted true
  else if beginsPlain l.inFlow c cs then l.lexPlain
  else .error .unexpected

/-- Reads all tokens that are left. -/
def run : (fuel : Nat) → Lexer → Except Defect (List Token)
  | 0, _ => .error .tooDeep
  | fuel + 1, l => do
    let l ← (l.skipGap (l.cursor.rest.length + 1)).forgetStale
    let l := l.dedent (some l.cursor.mark.column)
    match l.cursor.rest with
    | [] => return (← l.endBlocks).tokens.reverse
    | c :: cs => run fuel (← l.lexToken c cs)

end Lexer

/-- The tokens of a document. -/
def tokenize (s : List Char) : Except Defect (List Token) := do
  let s := withoutMark s
  if !s.all isAllowed then throw .character
  let c := Cursor.start (unifyBreaks s)
  let c := if c.rest.head? == some byteOrderMark then c.advance 1 else c
  Lexer.run (c.rest.length + 1) { cursor := c }

end Curly.Yaml
