import Curly.Text.Unicode.Ranges
import Curly.Yaml.Cursor

/-!
Scalars of YAML: plain ones, quoted ones and blocks. A line end inside a scalar is folded: one alone
becomes a space, and of several the first is dropped.
-/

namespace Curly.Yaml

/-! ## Folding -/

/-- The text that stands for line ends, the first of which may be dropped. -/
def foldBreaks : List Char → List Char
  | '\n' :: [] => [' ']
  | '\n' :: breaks => breaks
  | breaks => breaks

/-- The text that stands for a gap between words. -/
def foldGap (gap : List Char) : List Char :=
  match gap.filter isBreak with
  | [] => gap
  | breaks => foldBreaks breaks

/-- A gap within one line stays as it is. -/
theorem foldGap_of_blank {gap : List Char} (h : ∀ c ∈ gap, isBreak c = false) :
    foldGap gap = gap := by
  have : gap.filter isBreak = [] := List.filter_eq_nil_iff.2 fun c hc => by simp [h c hc]
  simp [foldGap, this]

/-! ## Plain scalars -/

/-- What ends a word inside brackets and braces. -/
def isFlowMark (c : Char) : Bool :=
  c == ',' || c == '[' || c == ']' || c == '\x7b' || c == '\x7d'

/-- A word of a plain scalar. Inside brackets and braces (`flow`) their marks end it, and a colon
may not stand right in front of one. -/
def plainWord (flow : Bool) : List Char → Except Defect (List Char)
  | [] => .ok []
  | c :: cs =>
    if isGap c then .ok []
    else if flow && c == ':' && cs.head?.any (fun d => isFlowMark d || d == '?') then
      .error .colon
    else if (c == ':' && atGap cs) || (flow && isFlowMark c) then .ok []
    else (c :: ·) <$> plainWord flow cs

/-- Whether a tab stands in a gap where a line has to be indented. -/
def hasTabIndent (indent : Nat) : (column : Option Nat) → List Char → Bool
  | _, [] => false
  | column, c :: gap =>
    if isBreak c then hasTabIndent indent (some 0) gap
    else match column with
      | none => hasTabIndent indent none gap
      | some n => (c == '\t' && n < indent) || hasTabIndent indent (some (n + 1)) gap

/-- A scanned scalar: its text, whether a line ended behind it, and where scanning goes on. -/
structure Scalar where
  text : List Char
  broken : Bool := false
  after : Cursor
  deriving Inhabited

/-- The rest of a plain scalar, of which `text` was read; `gap` was read behind it. -/
def plainFrom (flow : Bool) (indent : Nat) : (fuel : Nat) → (text gap : List Char) → Cursor →
    Except Defect Scalar
  | 0, _, _, _ => .error .tooDeep
  | fuel + 1, text, gap, c => do
    let done : Scalar := ⟨text, gap.any isBreak, c⟩
    -- A mark of a document or a comment ends the scalar in front of the gap.
    if c.atDocument || c.rest.head? == some '#' then return done
    let word ← plainWord flow c.rest
    if word.isEmpty then return done
    let text := text ++ foldGap gap ++ word
    let (gap, c) := (c.advance word.length).span isGap
    if gap.isEmpty then return ⟨text, false, c⟩
    if hasTabIndent indent none gap then throw .tab
    if !flow && c.mark.column < indent then return ⟨text, gap.any isBreak, c⟩
    plainFrom flow indent fuel text gap c

/-- Scans a plain scalar, whose lines are indented so far. -/
def plain (flow : Bool) (indent : Nat) (c : Cursor) : Except Defect Scalar :=
  plainFrom flow indent (c.rest.length + 1) [] [] c

/-! ## Quoted scalars -/

/-- The character that a letter stands for behind a backslash. -/
def escaped? : Char → Option Char
  | '0' => some '\x00'
  | 'a' => some '\x07'
  | 'b' => some '\x08'
  | 't' | '\t' => some '\t'
  | 'n' => some '\n'
  | 'v' => some '\x0b'
  | 'f' => some '\x0c'
  | 'r' => some '\r'
  | 'e' => some '\x1b'
  | ' ' => some ' '
  | '"' => some '"'
  | '/' => some '/'
  | '\\' => some '\\'
  | 'N' => some '\u0085'
  | '_' => some '\u00a0'
  | 'L' => some '\u2028'
  | 'P' => some '\u2029'
  | _ => none

/-- How many digits give the code of a character behind a letter. -/
def codeLength? : Char → Option Nat
  | 'x' => some 2
  | 'u' => some 4
  | 'U' => some 8
  | _ => none

/-- The digits of hexadecimal numbers. -/
def isHexDigit (c : Char) : Bool :=
  c.isDigit || ('a' ≤ c && c ≤ 'f') || ('A' ≤ c && c ≤ 'F')

/-- The character with a code. -/
def charOfCode (n : Nat) : Except Defect Char :=
  if n.isValidChar then .ok (Char.ofNat n) else .error .escape

/-- The character that is written behind a backslash, and how many characters write it. -/
def escape : List Char → Except Defect (Char × Nat)
  | [] => .error .escape
  | c :: cs =>
    match escaped? c, codeLength? c with
    | some d, _ => .ok (d, 1)
    | none, some n =>
      let ds := cs.take n
      if ds.length == n && ds.all isHexDigit then
        (fun d => (d, n + 1)) <$> charOfCode (Text.Unicode.readHex ds)
      else .error .escape
    | none, none => .error .escape

/-- What a run of a quoted scalar ends at. -/
inductive QuotedStop
  | quote
  | gap
  /-- A line end behind a backslash. -/
  | escapedBreak
  deriving DecidableEq, Inhabited

/-- A run of a quoted scalar: its text, the characters that write it, and what it ends at. -/
structure QuotedRun where
  text : List Char
  length : Nat
  stop : QuotedStop

/-- A run with a character in front, which so many characters write. -/
def QuotedRun.cons (c : Char) (length : Nat) (r : QuotedRun) : QuotedRun :=
  ⟨c :: r.text, r.length + length, r.stop⟩

/-- A run of a quoted scalar without gaps. -/
def quotedRun (double : Bool) : (fuel : Nat) → List Char → Except Defect QuotedRun
  | 0, _ => .error .tooDeep
  | _, [] => .ok ⟨[], 0, .gap⟩
  | fuel + 1, c :: cs =>
    if isGap c then .ok ⟨[], 0, .gap⟩
    else if double then
      if c == '"' then .ok ⟨[], 0, .quote⟩
      else if c == '\\' then
        if cs.head?.any isBreak then .ok ⟨[], 2, .escapedBreak⟩
        else do
          let (d, n) ← escape cs
          return (← quotedRun double fuel (cs.drop n)).cons d (n + 1)
      else QuotedRun.cons c 1 <$> quotedRun double fuel cs
    else if c == '\'' then
      match cs with
      | '\'' :: cs => QuotedRun.cons c 2 <$> quotedRun double fuel cs
      | _ => .ok ⟨[], 0, .quote⟩
    else QuotedRun.cons c 1 <$> quotedRun double fuel cs

/-- The rest of a quoted scalar, of which `text` was read. -/
def quotedFrom (double : Bool) : (fuel : Nat) → (text : List Char) → Cursor → Except Defect Scalar
  | 0, _, _ => .error .tooDeep
  | fuel + 1, text, c => do
    if c.atDocument then throw .marker
    if c.rest.isEmpty then throw .unclosed
    let run ← quotedRun double (c.rest.length + 1) c.rest
    let text := text ++ run.text
    let c := c.advance run.length
    match run.stop with
    | .quote => return ⟨text, false, c.advance 1⟩
    | .gap =>
      let (gap, c) := c.span isGap
      quotedFrom double fuel (text ++ foldGap gap) c
    | .escapedBreak =>
      let (gap, c) := c.span isGap
      -- An escaped line end is no blank: only the line ends behind it are kept.
      quotedFrom double fuel (text ++ gap.filter isBreak) c

/-- Scans a quoted scalar; the cursor stands at its quote. -/
def quoted (double : Bool) (c : Cursor) : Except Defect Scalar :=
  quotedFrom double (c.rest.length + 1) [] (c.advance 1)

/-! ## Blocks -/

/-- Which line ends at the end of a block stay. -/
inductive Chomping
  | strip
  | clip
  | keep
  deriving DecidableEq, Inhabited

/-- The chomping that a character names. -/
def chomping? : Char → Option Chomping
  | '+' => some .keep
  | '-' => some .strip
  | _ => none

/-- The indentation that a digit names. -/
def indentDigit? (c : Char) : Option Nat := if c.isDigit then some (c.toNat - '0'.toNat) else none

/-- The head of a block: chomping and indentation, in any order, and how many characters write
them. -/
def blockHead (s : List Char) : Except Defect (Chomping × Option Nat × Nat) := do
  let chomp := s.head?.bind chomping?
  let digit := s.head?.bind indentDigit?
  let next := s.tail.head?
  let head : Chomping × Option Nat × Nat :=
    match chomp, digit with
    | some ch, _ =>
      match next.bind indentDigit? with
      | some n => (ch, some n, 2)
      | none => (ch, none, 1)
    | none, some n =>
      match next.bind chomping? with
      | some ch => (ch, some n, 2)
      | none => (.clip, some n, 1)
    | none, none => (.clip, none, 0)
  if head.2.1 == some 0 then throw .header
  return head

/-- Moves past empty lines and the indentation of a line. Unless the indentation is given it is
found: the widest one so far, but at least `least`. Gives the line ends and the indentation. -/
def blockGap (least : Nat) : (fuel : Nat) → (indent : Option Nat) → (widest : Nat) →
    (breaks : List Char) → Cursor → Except Defect (List Char × Nat × Cursor)
  | 0, _, _, _, _ => .error .tooDeep
  | fuel + 1, indent, widest, breaks, c => do
    let spaces := (c.rest.takeWhile (· == ' ')).length
    -- Blanks beyond the indentation are part of the line.
    let c := c.advance (match indent with
      | some n => min spaces (n - c.mark.column)
      | none => spaces)
    let widest := max widest c.mark.column
    if indent.all (c.mark.column < ·) && c.rest.head? == some '\t' then throw .tab
    match c.rest.head? with
    | some b =>
      if isBreak b then blockGap least fuel indent widest (breaks ++ [b]) (c.advance 1)
      else return (breaks, indent.getD (max widest least), c)
    | none => return (breaks, indent.getD (max widest least), c)

/-- A block as far as it was read: its text, the end of its last line, the line ends behind that,
and whether its last line begins with a blank. -/
structure BlockText where
  text : List Char := []
  lead : List Char := []
  trail : List Char := []
  blank : Bool := false

/-- A block with one more line. -/
def BlockText.addLine (literal : Bool) (b : BlockText) (line : List Char) : BlockText :=
  let blank := line.head?.any isBlank
  let joint :=
    if !literal && b.lead == ['\n'] && !b.blank && !blank then
      if b.trail.isEmpty then [' '] else b.trail
    else b.lead ++ b.trail
  { text := b.text ++ joint ++ line, blank := blank }

/-- The lines of a block. -/
def blockLines (literal : Bool) (indent : Nat) : (fuel : Nat) → BlockText → Cursor →
    Except Defect (BlockText × Cursor)
  | 0, _, _ => .error .tooDeep
  | fuel + 1, b, c => do
    if c.mark.column != indent || c.rest.isEmpty then return (b, c)
    let (line, c) := c.span fun c => !isBreak c
    let lead := c.rest.take 1
    let (trail, _, c) ← blockGap indent (c.rest.length + 1) (some indent) 0 [] (c.advance 1)
    blockLines literal indent fuel { b.addLine literal line with lead := lead, trail := trail } c

/-- Scans a block; the cursor stands at its mark. `outer` is the indentation of what it stands in,
if there is any. -/
def block (literal : Bool) (outer : Option Nat) (c : Cursor) : Except Defect Scalar := do
  let c := c.advance 1
  let (chomping, digit, n) ← blockHead c.rest
  let c := ((c.advance n).skip isBlank).skipComment
  if !atBreak c.rest then throw .header
  let given := digit.map (· + outer.getD 0)
  let least := max 1 ((outer.map (· + 1)).getD 0)
  let fuel := c.rest.length + 1
  let (trail, indent, c) ← blockGap least fuel given 0 [] (c.advance 1)
  let (b, c) ← blockLines literal indent fuel { trail := trail } c
  let tail :=
    match chomping with
    | .strip => []
    | .clip => b.lead
    | .keep => b.lead ++ b.trail
  return ⟨b.text ++ tail, false, c⟩

end Curly.Yaml
