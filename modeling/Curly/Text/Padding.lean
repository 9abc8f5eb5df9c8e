/-!
Padding: texts brought to a width. A text that is wide enough already stays as it is.
-/

namespace Curly.Text

/-- A text at the left of a field. -/
def padEnd (width : Nat) (fill : Char) (s : List Char) : List Char :=
  s ++ List.replicate (width - s.length) fill

/-- A text at the right of a field. -/
def padStart (width : Nat) (fill : Char) (s : List Char) : List Char :=
  List.replicate (width - s.length) fill ++ s

/-- A text in the middle of a field. Where one place is left over it goes to the right, unless the
width is odd. -/
def center (width : Nat) (fill : Char) (s : List Char) : List Char :=
  let missing := width - s.length
  let left := missing / 2 + missing % 2 * (width % 2)
  List.replicate left fill ++ s ++ List.replicate (missing - left) fill

/-- A number padded with zeros, which follow its sign. -/
def padZeros (width : Nat) (s : List Char) : List Char :=
  let zeros := List.replicate (width - s.length) '0'
  match s with
  | c :: cs => if c == '+' || c == '-' then c :: zeros ++ cs else zeros ++ c :: cs
  | [] => zeros

/-- Replaces tabs by blanks up to the next stop; `column` is where the text begins. -/
def expandTabs (width : Nat) (column : Nat) : List Char → List Char
  | [] => []
  | '\t' :: cs =>
    let n := if width = 0 then 0 else width - column % width
    List.replicate n ' ' ++ expandTabs width (column + n) cs
  | c :: cs => c :: expandTabs width (if c == '\n' || c == '\r' then 0 else column + 1) cs

/-- Padding makes a text as wide as the field. -/
theorem length_padEnd (width : Nat) (fill : Char) (s : List Char) :
    (padEnd width fill s).length = max width s.length := by
  simp [padEnd]; omega

/-- Padding makes a text as wide as the field. -/
theorem length_padStart (width : Nat) (fill : Char) (s : List Char) :
    (padStart width fill s).length = max width s.length := by
  simp [padStart]; omega

end Curly.Text
