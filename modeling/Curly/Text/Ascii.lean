/-!
ASCII: classes and case of characters where only those below 128 count, as in bytes. All other
characters are of no class and have no case.
-/

namespace Curly.Text.Ascii

/-- Tab to carriage return, and the space. -/
def isBlank (c : Char) : Bool := (0x09 ≤ c.toNat && c.toNat ≤ 0x0D) || c == ' '

/-- What ends a line. -/
def isLineEnd (c : Char) : Bool := c == '\n' || c == '\r'

/-- A text with a capital at the start of every word; `inWord` says whether a letter stands before
it. -/
def toTitle (inWord : Bool) : List Char → List Char
  | [] => []
  | c :: cs => (if inWord then c.toLower else c.toUpper) :: toTitle c.isAlpha cs

/-- A text that begins with a capital and goes on in small letters. -/
def capitalize : List Char → List Char
  | [] => []
  | c :: cs => c.toUpper :: cs.map Char.toLower

/-- The other case of a letter. -/
def swapCase (c : Char) : Char := if c.isUpper then c.toLower else c.toUpper

/-- Whether a text has letters, and capitals where words begin and nowhere else. `inWord` says
whether a letter stands before it, `found` whether one came before. -/
def isTitle (inWord found : Bool) : List Char → Bool
  | [] => found
  | c :: cs =>
    if c.isAlpha then c.isUpper != inWord && isTitle true true cs else isTitle false found cs

/-- Whether a text has small letters and no capitals. -/
def isLower (s : List Char) : Bool := s.any Char.isLower && !s.any Char.isUpper

/-- Whether a text has capitals and no small letters. -/
def isUpper (s : List Char) : Bool := s.any Char.isUpper && !s.any Char.isLower

end Curly.Text.Ascii
