import Curly.Yaml.Defect

/-!
Reading YAML character by character: the characters that a document may hold, line ends and blanks,
and the cursor, which is the rest of a text with the place that it starts at.
-/

namespace Curly.Yaml

/-- Whether a document may hold a character. -/
def isAllowed (c : Char) : Bool :=
  let n := c.toNat
  n == 0x09 || n == 0x0A || n == 0x0D || (0x20 ≤ n && n ≤ 0x7E) || n == 0x85 ||
    (0xA0 ≤ n && n ≤ 0xFFFD) || 0x10000 ≤ n

/-- Line ends written as line feeds; the two separators of lines and paragraphs stay. -/
def unifyBreaks : List Char → List Char
  | [] => []
  | '\r' :: '\n' :: cs => '\n' :: unifyBreaks cs
  | c :: cs => (if c == '\r' || c == '\u0085' then '\n' else c) :: unifyBreaks cs

/-- The mark of the byte order, which a text may begin with. -/
def byteOrderMark : Char := '\uFEFF'

/-- A text without a mark of the byte order. -/
def withoutMark : List Char → List Char
  | [] => []
  | c :: cs => if c == byteOrderMark then cs else c :: cs

/-- What ends a line. -/
def isBreak (c : Char) : Bool := c == '\n' || c == '\u2028' || c == '\u2029'

/-- The blanks within a line. -/
def isBlank (c : Char) : Bool := c == ' ' || c == '\t'

/-- Blanks and line ends. -/
def isGap (c : Char) : Bool := isBlank c || isBreak c

/-- Whether a text is at its end, at a blank or at a line end. -/
def atGap : List Char → Bool
  | [] => true
  | c :: _ => isGap c

/-- Whether a text is at its end or at a line end. -/
def atBreak : List Char → Bool
  | [] => true
  | c :: _ => isBreak c

/-- The characters of names. -/
def isWordChar (c : Char) : Bool := c.isAlphanum || c == '_' || c == '-'

/-- Whether a text begins with three such characters and a gap. -/
def atMarker (c : Char) (s : List Char) : Bool :=
  List.isPrefixOf [c, c, c] s && atGap (s.drop 3)

/-- A place: the characters before it, the lines before it, and the characters before it on its
line. -/
structure Mark where
  index : Nat
  line : Nat
  column : Nat
  deriving DecidableEq, Inhabited

/-- The place after a character. -/
def Mark.next (m : Mark) (c : Char) : Mark :=
  if isBreak c then ⟨m.index + 1, m.line + 1, 0⟩ else ⟨m.index + 1, m.line, m.column + 1⟩

/-- The rest of a text, and where it starts. -/
structure Cursor where
  rest : List Char
  mark : Mark
  deriving Inhabited

namespace Cursor

/-- The start of a text. -/
def start (s : List Char) : Cursor := ⟨s, ⟨0, 0, 0⟩⟩

/-- Moves past so many characters. -/
def advance (c : Cursor) (n : Nat) : Cursor :=
  ⟨c.rest.drop n, (c.rest.take n).foldl Mark.next c.mark⟩

/-- Moves past the characters of a kind, and gives them. -/
def span (p : Char → Bool) (c : Cursor) : List Char × Cursor :=
  let run := c.rest.takeWhile p
  (run, c.advance run.length)

/-- Moves past the characters of a kind. -/
def skip (p : Char → Bool) (c : Cursor) : Cursor := (c.span p).2

/-- Moves past a comment, which goes on to the end of its line. -/
def skipComment (c : Cursor) : Cursor :=
  match c.rest with
  | '#' :: _ => c.skip fun c => !isBreak c
  | _ => c

/-- Whether a marker of documents stands here, at the start of a line. -/
def atDocument (c : Cursor) : Bool :=
  c.mark.column == 0 && (atMarker '-' c.rest || atMarker '.' c.rest)

/-- What was passed and what is left make up the text. -/
theorem append_rest_span (p : Char → Bool) (c : Cursor) :
    (c.span p).1 ++ (c.span p).2.rest = c.rest := by
  obtain ⟨t, ht⟩ := List.takeWhile_prefix p (l := c.rest)
  simp only [span, advance]
  generalize c.rest.takeWhile p = run at ht
  simp [← ht]

end Cursor

end Curly.Yaml
