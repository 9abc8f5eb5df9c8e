import Curly.Text.Quoted

/-!
Tokens of a template: the text runs, the markers and the block openers and closers that the lexer
finds, each with the place where it starts.
-/

namespace Curly

/-- The two kinds of block. -/
inductive BlockKind
  | cond
  | each
  deriving DecidableEq, Inhabited

/-- The word that opens and closes a block of a kind. -/
def BlockKind.keyword : BlockKind → String
  | .cond => "if"
  | .each => "each"

/-- What a token is. The lexer makes no `other` token; a list of tokens from elsewhere may hold
some, under any name. -/
inductive TokenKind
  | text
  | variable
  | raw
  | opener (block : BlockKind)
  | closer (block : BlockKind)
  | other (name : String)
  deriving DecidableEq, Inhabited

/-- The name of a kind. -/
def TokenKind.name : TokenKind → String
  | .text => "TEXT"
  | .variable => "VAR"
  | .raw => "RAW"
  | .opener .cond => "IF_START"
  | .closer .cond => "IF_END"
  | .opener .each => "EACH_START"
  | .closer .each => "EACH_END"
  | .other name => name

/-- The kind with a name; a name that no kind has is the name of another one. -/
def TokenKind.ofName (name : String) : TokenKind :=
  match [.text, .variable, .raw, .opener .cond, .closer .cond, .opener .each,
      .closer .each].find? (fun k : TokenKind => k.name == name) with
  | some k => k
  | none => .other name

/-- A place in a template: its offset from the start, its line and its column, the last two counted
from one. -/
structure Place where
  offset : Nat
  line : Nat
  column : Nat
  deriving DecidableEq, Inhabited

namespace Place

/-- The start of a template. -/
def start : Place := ⟨0, 1, 1⟩

/-- The place after one character. -/
def next (p : Place) (c : Char) : Place :=
  if c = '\n' then ⟨p.offset + 1, p.line + 1, 1⟩ else ⟨p.offset + 1, p.line, p.column + 1⟩

/-- The place after a run of characters. -/
def advance (p : Place) (s : List Char) : Place := s.foldl next p

@[simp] theorem advance_nil (p : Place) : p.advance [] = p := rfl

@[simp] theorem advance_cons (p : Place) (c : Char) (s : List Char) :
    p.advance (c :: s) = (p.next c).advance s := rfl

@[simp] theorem advance_append (p : Place) (s t : List Char) :
    p.advance (s ++ t) = (p.advance s).advance t := List.foldl_append

end Place

/-- A token: its kind, the text, expression, condition or items that it holds, and where it
starts. Closers hold nothing. -/
structure Token where
  kind : TokenKind
  value : String
  place : Place
  deriving DecidableEq, Inhabited

/-- The written form of a token for diagnostics. -/
def Token.describe (t : Token) : String :=
  s!"Token({t.kind.name}, {Text.Quoted.ofString t.value}, {t.place.line}:{t.place.column})"

end Curly
