/-!
Lines: a text cut at its line ends.
-/

namespace Curly.Text

/-- What ends a line, besides a carriage return with a line feed: the controls for lines, pages and
records, next line, and the two separators. -/
def isLineEnd (c : Char) : Bool :=
  let n := c.toNat
  (0x0A ≤ n && n ≤ 0x0D) || (0x1C ≤ n && n ≤ 0x1E) || n == 0x85 || n == 0x2028 || n == 0x2029

/-- The lines of a text, with their ends or without; `isEnd` says what ends one. `line` is what the
current line begins with, backwards; an empty line at the end is none. -/
def linesFrom (isEnd : Char → Bool) (keepEnds : Bool) (line : List Char) :
    List Char → List (List Char)
  | [] => if line.isEmpty then [] else [line.reverse]
  | '\r' :: '\n' :: cs =>
    (line.reverse ++ if keepEnds then ['\r', '\n'] else []) :: linesFrom isEnd keepEnds [] cs
  | c :: cs =>
    if isEnd c then
      (line.reverse ++ if keepEnds then [c] else []) :: linesFrom isEnd keepEnds [] cs
    else linesFrom isEnd keepEnds (c :: line) cs

/-- With their ends the lines make up the text. -/
theorem flatten_linesFrom (isEnd : Char → Bool) (line s : List Char) :
    (linesFrom isEnd true line s).flatten = line.reverse ++ s := by
  fun_induction linesFrom isEnd true line s with
  | case1 => simp_all
  | case2 => simp_all
  | case3 _ _ ih => simp [ih]
  | case4 _ _ _ _ _ ih => simp [ih]
  | case5 _ _ _ _ _ ih => simp [ih]

end Curly.Text
