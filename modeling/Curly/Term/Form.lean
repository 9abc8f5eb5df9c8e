import Curly.Text.Search
import Curly.Text.Space
import Curly.Text.Unicode.Letter

/-!
The written forms of the expressions of a template, told apart before anything is parsed: names,
dotted paths, free-form expressions, and comparisons `(op left right)`.
-/

namespace Curly.Form

open Text Text.Unicode

/-- A text without one line feed at its end. -/
def dropFinalNewline (s : List Char) : List Char :=
  if s.getLast? = some '\n' then s.dropLast else s

/-- Whether a character may start a name. -/
def startsName (c : Char) : Bool := c.isAlpha || c == '_'

/-- Whether a text is one name, perhaps with a line feed after it. -/
def isIdentifier (s : List Char) : Bool :=
  match dropFinalNewline s with
  | [] => false
  | c :: cs => startsName c && cs.all isWord

/-- Whether a text is a segment of a path: letters, digits, low lines and dollars, but no digit in
front. -/
def isSegment : List Char → Bool
  | [] => false
  | c :: cs => (startsName c || c == '$') && cs.all fun c => c.isAlphanum || c == '_' || c == '$'

/-- Whether a text is a path, segments with dots between them, perhaps with a line feed after
it. -/
def isPath (s : List Char) : Bool := (splitAll ['.'] (dropFinalNewline s)).all isSegment

/-- Members whose mere mention makes an expression free-form. -/
def methods : List String :=
  ["length", "split", "join", "toUpperCase", "toLowerCase", "trim", "slice", "substring", "charAt",
    "filter"]

/-- Whether a text goes on where a word cannot: at its end, or with a character that is not of
words. -/
def atWordEnd : List Char → Bool
  | [] => true
  | c :: _ => !isWord c

/-- Whether a word stands in front of a text and ends there. -/
def startsWithWord (word s : List Char) : Bool :=
  word.isPrefixOf s && atWordEnd (s.drop word.length)

/-- Whether a sign of a free-form expression stands in front of a text: an operator, a bracket, an
arrow, a loop index, or a known method after its dot. -/
def startsComplex : List Char → Bool
  | '=' :: '>' :: _ => true
  | '.' :: s => methods.any fun m => startsWithWord m.toList s
  | c :: s => "()+-*/".toList.contains c || "@index".toList.isPrefixOf (c :: s)
  | [] => false

/-- Whether a text is a free-form expression. -/
def isComplex : List Char → Bool
  | [] => false
  | c :: s => startsComplex (c :: s) || isComplex s

/-! ## Parts of a comparison -/

/-- How far a text has been split: the parts so far and the current one, both reversed, the depth
of parentheses, the quote that is open and whether its next character is taken as it is. -/
structure Splitting where
  parts : List (List Char) := []
  current : List Char := []
  depth : Nat := 0
  quote : Option Char := none
  escaped : Bool := false

/-- Ends the current part, if there is one. -/
def Splitting.flush (s : Splitting) : Splitting :=
  if s.current.isEmpty then s
  else { s with parts := s.current.reverse :: s.parts, current := [] }

/-- Takes one character; `none` if it closes a parenthesis that was not opened. -/
def Splitting.step (s : Splitting) (c : Char) : Option Splitting :=
  let kept := { s with current := c :: s.current }
  match s.quote with
  | some q =>
    if s.escaped then some { kept with escaped := false }
    else if c = '\\' then some { kept with escaped := true }
    else if c = q then some { kept with quote := none }
    else some kept
  | none =>
    if c = '\'' || c = '"' then some { kept with quote := some c }
    else if c = '(' then some { kept with depth := s.depth + 1 }
    else if c = ')' then if s.depth = 0 then none else some { kept with depth := s.depth - 1 }
    else if isSpace c && s.depth = 0 then some s.flush
    else some kept

/-- The parts of a text between the white space outside quotes and parentheses, unless these are
unbalanced. -/
def topLevelParts? (text : List Char) : Option (List (List Char)) := do
  let s ← text.foldlM Splitting.step {}
  if s.quote.isSome || s.depth != 0 then none
  return s.flush.parts.reverse

/-- The operator and the operands of a comparison `(op left right)`. Any name may be the
operator. -/
def comparison? (s : List Char) : Option (List Char × List Char × List Char) :=
  match s with
  | '(' :: rest =>
    if rest.getLast? = some ')' then
      match topLevelParts? rest.dropLast with
      | some [op, left, right] => if isIdentifier op then some (op, left, right) else none
      | _ => none
    else none
  | _ => none

end Curly.Form
