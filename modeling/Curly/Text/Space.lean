/-!
White space: the characters that separate words and that trimming removes.
-/

namespace Curly.Text

/-- The blanks and line ends: tab to carriage return, the four separators of the control block,
the space, next line, and the spaces of every width. -/
def isSpace (c : Char) : Bool :=
  let n := c.toNat
  (0x09 ≤ n && n ≤ 0x0D) || (0x1C ≤ n && n ≤ 0x20) || n == 0x85 || n == 0xA0 || n == 0x1680 ||
    (0x2000 ≤ n && n ≤ 0x200A) || n == 0x2028 || n == 0x2029 || n == 0x202F || n == 0x205F ||
    n == 0x3000

/-- A text without its leading white space. -/
def stripStart (s : List Char) : List Char := s.dropWhile isSpace

/-- A text without its trailing white space. -/
def stripEnd (s : List Char) : List Char := (s.reverse.dropWhile isSpace).reverse

/-- A text without the white space at its ends. -/
def strip (s : List Char) : List Char := stripEnd (stripStart s)

/-- `strip` on strings. -/
def trimmed (s : String) : String := String.ofList (strip s.toList)

/-- The words of a text: its longest runs of characters that are not white space. -/
def words (s : List Char) : List (List Char) :=
  let (word, done) := s.foldr (fun c (word, done) =>
    if isSpace c then ([], if word.isEmpty then done else word :: done) else (c :: word, done))
    ([], [])
  if word.isEmpty then done else word :: done

/-- The words of a text between blanks; after `limit` cuts the rest is left as it is. -/
def cutWords (isBlank : Char → Bool) : (limit : Nat) → List Char → List (List Char)
  | 0, s =>
    let s := s.dropWhile isBlank
    if s.isEmpty then [] else [s]
  | limit + 1, s =>
    let s := s.dropWhile isBlank
    if s.isEmpty then []
    else s.takeWhile (!isBlank ·) :: cutWords isBlank limit (s.dropWhile (!isBlank ·))

/-- Every white space character of the core library's narrow class is one here. -/
theorem isSpace_of_isWhitespace {c : Char} (h : c.isWhitespace = true) : isSpace c = true := by
  simp only [Char.isWhitespace, Bool.or_eq_true, decide_eq_true_eq] at h
  rcases h with ((rfl | rfl) | rfl) | rfl <;> rfl

end Curly.Text
