import Curly.Expr
import Curly.Number.Reading
import Curly.Text.Unicode.Identifier
import Curly.Text.Unicode.Normal

/-!
The lexemes of the expression language. Brackets are matched here, for line ends inside them are
white space; outside, the first line that holds a lexeme is the only one.
-/

namespace Curly

/-- The lexemes of expressions. A string has one prefix and one pair of quotes; a keyword is a
reserved word, and a name is in its normal form. -/
inductive Lexeme
  | name (id : String)
  | keyword (word : String)
  | number (value : Literal)
  | string (value : Literal)
  | op (symbol : String)
  deriving DecidableEq, Inhabited

namespace Lexeme

open Text.Unicode

/-- The reserved words. -/
def keywords : List String :=
  ["False", "None", "True", "and", "as", "assert", "async", "await", "break", "class", "continue",
    "def", "del", "elif", "else", "except", "finally", "for", "from", "global", "if", "import",
    "in", "is", "lambda", "nonlocal", "not", "or", "pass", "raise", "return", "try", "while",
    "with", "yield"]

/-- Operators and brackets, the longer ones first. -/
def symbols : List String :=
  ["**=", "//=", ">>=", "<<=", "...",
    "!=", "%=", "&=", "**", "*=", "+=", "-=", "->", "//", "/=", ":=", "<<", "<=", "<>", "==", ">=",
    ">>", "@=", "^=", "|=",
    "%", "&", "(", ")", "*", "+", ",", "-", ".", "/", ":", ";", "<", "=", ">", "@", "[", "]", "^",
    "\x7b", "|", "\x7d", "~"]

/-- How deep brackets may be nested. -/
def bracketLimit : Nat := 200

/-- Every line end as a line feed. -/
def normalizeLines : List Char → List Char
  | [] => []
  | '\r' :: '\n' :: s => '\n' :: normalizeLines s
  | '\r' :: s => '\n' :: normalizeLines s
  | c :: s => c :: normalizeLines s

/-- Whether a character may stand in a name as far as the lexer sees: names are checked whole. -/
def isNameChar (c : Char) : Bool := c.isAlphanum || c == '_' || 128 ≤ c.toNat

/-- Whether a run of name characters is a name. -/
def isName : List Char → Bool
  | [] => false
  | c :: cs => isIdentifierStart c && cs.all isIdentifierRest

/-! ## Numbers -/

/-- Whether a number may end before the given characters: a name must not follow at once, but the
first letters of some keywords may. -/
def numberMayEnd : List Char → Bool
  | [] => true
  | c :: cs =>
    !isNameChar c ||
      ["and", "else", "for", "if", "in", "is", "or", "not"].any fun w =>
        w.toList.isPrefixOf (c :: cs)

/-- Digits that satisfy `p`, with single low lines between them, and what follows them. A low line
must be followed by a digit. -/
def digitRun? (p : Char → Bool) : List Char → Option (List Char × List Char)
  | [] => some ([], [])
  | '_' :: s =>
    match s with
    | [] => none
    | d :: t => if p d then (digitRun? p t).map fun (ds, rest) => (d :: ds, rest) else none
  | c :: s =>
    if p c then (digitRun? p s).map fun (ds, rest) => (c :: ds, rest) else some ([], c :: s)

/-- The value of digits in a base up to sixteen. -/
def valueInBase (base : Nat) (ds : List Char) : Nat :=
  ds.foldl (fun n c => base * n + hexValue c) 0

/-- A number in a base other than ten, after its mark. -/
def based? (base : Nat) (p : Char → Bool) (s : List Char) : Option (Literal × List Char) := do
  let (ds, rest) ← digitRun? p s
  if ds.isEmpty || (rest.head?.any fun c => c.isDigit || c == '_') || !numberMayEnd rest then none
  else some (.int (valueInBase base ds), rest)

/-- The exponent of a decimal number: `none` if it is written wrong, and no digits if there is
none. -/
def exponent? (s : List Char) : Option (Option (Bool × List Char) × List Char) :=
  match s with
  | e :: t =>
    if e == 'e' || e == 'E' then
      let signed := t.head?.any fun c => c == '+' || c == '-'
      let (negative, u) := Reading.sign t
      if (u.head?.any Char.isDigit) then do
        let (ds, rest) ← digitRun? Char.isDigit u
        some (some (negative, ds), rest)
      -- No exponent after all: then the letter must begin a word that may follow a number.
      else if signed || !numberMayEnd s then none
      else some (none, s)
    else some (none, s)
  | [] => some (none, [])

/-- A decimal number. An integer does not begin with a zero unless it is zero, and is not longer
than texts of numbers may be. -/
def decimal? (s : List Char) : Option (Literal × List Char) := do
  let (whole, rest) ← if s.head?.any Char.isDigit then digitRun? Char.isDigit s else some ([], s)
  let (fraction, rest) ←
    match rest with
    | '.' :: t =>
      if t.head?.any Char.isDigit then
        (digitRun? Char.isDigit t).map fun (ds, rest) => (some ds, rest)
      else some (some [], t)
    | t => some (none, t)
  let (exponent, rest) ← exponent? rest
  let imaginary := rest.head?.any fun c => c == 'j' || c == 'J'
  let rest := if imaginary then rest.drop 1 else rest
  if !numberMayEnd rest then none
  let digits := whole ++ fraction.getD []
  let power : Int :=
    (match exponent with
      | some (negative, ds) => if negative then -(Reading.natOf ds : Int) else Reading.natOf ds
      | none => 0) - (fraction.getD []).length
  if imaginary then some (.imaginary (Reading.scaled false digits power), rest)
  else if fraction.isSome || exponent.isSome then
    some (.float (Reading.scaled false digits power), rest)
  -- A leading zero may have only zeros behind it.
  else if whole.head? == some '0' && whole.any (· != '0') then none
  else if Reading.digitLimit < whole.length then none
  else some (.int (Reading.natOf whole), rest)

/-- A number. -/
def number? (s : List Char) : Option (Literal × List Char) :=
  match s with
  | '0' :: c :: t =>
    if c == 'x' || c == 'X' then
      based? 16 (fun d => d.isDigit || ('a' ≤ d && d ≤ 'f') || ('A' ≤ d && d ≤ 'F')) t
    else if c == 'o' || c == 'O' then based? 8 (fun d => '0' ≤ d && d ≤ '7') t
    else if c == 'b' || c == 'B' then based? 2 (fun d => d == '0' || d == '1') t
    else decimal? s
  | _ => decimal? s

/-! ## Strings -/

/-- The characters up to the closing quotes, escapes untouched, and what follows the quotes. A
backslash takes the next character along; with one quote, a line end is not allowed. -/
def quoted? (quote : Char) (triple : Bool) : List Char → Option (List Char × List Char)
  | [] => none
  | '\\' :: s =>
    match s with
    | [] => none
    | c :: t => (quoted? quote triple t).map fun (body, rest) => ('\\' :: c :: body, rest)
  | c :: s =>
    if c == quote && (!triple || [quote, quote].isPrefixOf s) then
      some ([], if triple then s.drop 2 else s)
    else if c == '\n' && !triple then none
    else (quoted? quote triple s).map fun (body, rest) => (c :: body, rest)

/-- The character of a hexadecimal escape with `n` digits. -/
def hexEscape? (n : Nat) (s : List Char) : Option Char :=
  let ds := s.take n
  let code := valueInBase 16 ds
  if ds.length = n && ds.all (fun d => d.isDigit || ('a' ≤ d.toLower && d.toLower ≤ 'f')) &&
      code.isValidChar then
    some (Char.ofNat code)
  else none

/-- The escapes of one character. -/
def simpleEscape? : Char → Option Char
  | '\\' => some '\\'
  | '\'' => some '\''
  | '"' => some '"'
  | 'a' => some '\x07'
  | 'b' => some '\x08'
  | 'f' => some '\x0c'
  | 'n' => some '\n'
  | 'r' => some '\r'
  | 't' => some '\t'
  | 'v' => some '\x0b'
  | _ => none

/-- What an escape stands for, given what follows the backslash, and how many characters of that
belong to it. Bytes know no escapes by code point; a backslash before a character that makes no
escape stands for itself. -/
def escape? (bytes : Bool) : List Char → Option (List Char × Nat)
  | [] => some (['\\'], 0)
  | c :: t =>
    if c == '\n' then some ([], 1)
    else
      match simpleEscape? c with
      | some d => some ([d], 1)
      | none =>
        -- Up to three octal digits, which can be more than a byte holds.
        if '0' ≤ c && c ≤ '7' then
          let ds := ((c :: t).take 3).takeWhile fun d => '0' ≤ d && d ≤ '7'
          let code := valueInBase 8 ds
          some ([Char.ofNat (if bytes then code % 256 else code)], ds.length)
        else if c == 'x' || (!bytes && (c == 'u' || c == 'U')) then
          let n := if c == 'x' then 2 else if c == 'u' then 4 else 8
          (hexEscape? n t).map fun d => ([d], n + 1)
        else if !bytes && c == 'N' then none
        else some (['\\', c], 1)

/-- The text that the characters between quotes stand for, the first `skip` of them left out. -/
def unescape? (bytes : Bool) : (skip : Nat) → List Char → Option (List Char)
  | _, [] => some []
  | skip + 1, _ :: t => unescape? bytes skip t
  | 0, '\\' :: t => do
    let (out, n) ← escape? bytes t
    let rest ← unescape? bytes n t
    return out ++ rest
  | 0, c :: t => (unescape? bytes 0 t).map (c :: ·)

/-- The prefixes of strings: whether it is marked, raw, or bytes. -/
def stringPrefix? (p : List Char) : Option (Bool × Bool × Bool) :=
  match p with
  | [] => some (false, false, false)
  | ['u'] => some (true, false, false)
  | ['U'] => some (false, false, false)
  | [c] =>
    if c.toLower == 'r' then some (false, true, false)
    else if c.toLower == 'b' then some (false, false, true) else none
  | [c, d] =>
    if (c.toLower == 'r' && d.toLower == 'b') || (c.toLower == 'b' && d.toLower == 'r') then
      some (false, true, true)
    else none
  | _ => none

/-- A string whose prefix has been read, from its opening quote on. -/
def string? (p : List Char) (s : List Char) : Option (Literal × List Char) := do
  let (marked, raw, bytes) ← stringPrefix? p
  match s with
  | [] => none
  | quote :: t =>
    let triple := [quote, quote].isPrefixOf t
    let (body, rest) ← quoted? quote triple (if triple then t.drop 2 else t)
    if bytes && body.any fun c => 128 ≤ c.toNat then none
    let text ← if raw then some body else unescape? bytes 0 body
    if bytes then some (.bytes (text.map fun c => c.toNat.toUInt8), rest)
    else some (.str (String.ofList text) marked, rest)

/-! ## Lexemes -/

/-- The lexeme at the front of a text that begins with neither white space nor a comment. -/
def next? (s : List Char) : Option (Lexeme × List Char) :=
  match s with
  | [] => none
  | c :: t =>
    if c.isDigit || (c == '.' && t.head?.any Char.isDigit) then
      (number? s).map fun (n, rest) => (.number n, rest)
    else if c == '\'' || c == '"' then (string? [] s).map fun (l, rest) => (.string l, rest)
    else if isNameChar c then
      let (word, rest) := s.span isNameChar
      -- A word right before a quote is no name if it can be the prefix of a string.
      if rest.head?.any (fun q => q == '\'' || q == '"') && (stringPrefix? word).isSome then
        (string? word rest).map fun (l, rest) => (.string l, rest)
      else if !isName word then none
      else
        let id := String.ofList word
        let l :=
          if keywords.contains id then .keyword id else .name (String.ofList (normalName word))
        some (l, rest)
    else
      (symbols.find? fun w => w.toList.isPrefixOf s).map fun w => (.op w, s.drop w.length)

/-- White space inside a line. -/
def isBlank (c : Char) : Bool := c == ' ' || c == '\t' || c == '\x0c'

/-- Whether a line holds nothing but blanks and a comment. -/
def isIdleLine (line : List Char) : Bool :=
  match line.dropWhile isBlank with
  | [] => true
  | c :: _ => c == '#'

/-- The bracket that closes one. -/
def closerOf : String → Option String
  | "(" => some ")"
  | "[" => some "]"
  | "\x7b" => some "\x7d"
  | _ => none

/-- The brackets still open after a lexeme, innermost first. -/
def brackets? (stack : List String) (l : Lexeme) : Option (List String) :=
  match l with
  | .op w =>
    match closerOf w with
    | some close => if stack.length < bracketLimit then some (close :: stack) else none
    | none =>
      if w == ")" || w == "]" || w == "\x7d" then
        match stack with
        | top :: below => if top == w then some below else none
        | [] => none
      else some stack
  | _ => some stack

/-- The lexemes of a text that begins on the line of the expression, given the open brackets. -/
def scan (stack : List String) (s : List Char) : Option (List Lexeme) :=
  match s with
  | [] => if stack.isEmpty then some [] else none
  | c :: t =>
    if isBlank c then scan stack t
    else if c == '#' then
      have : (t.dropWhile (· != '\n')).length ≤ t.length := (List.dropWhile_sublist _).length_le
      scan stack (t.dropWhile (· != '\n'))
    else if c == '\n' then
      -- Outside of brackets the expression ends with its line, and nothing may follow but idle
      -- lines.
      if stack.isEmpty then if (t.splitOn '\n').all isIdleLine then some [] else none
      else scan stack t
    else if c == '\\' then
      match t with
      | d :: u => if d == '\n' && !u.isEmpty then scan stack u else none
      | [] => none
    else
      match next? (c :: t) with
      | some (l, rest) =>
        -- No lexeme is empty. The test is there for the recursion, which descends along what is
        -- left.
        if _h : rest.length < (c :: t).length then do
          let stack ← brackets? stack l
          let ls ← scan stack rest
          return l :: ls
        else none
      | none => none
termination_by s.length
decreasing_by
  all_goals grind

/-- A text without the idle lines in front of its first other line. -/
def dropIdleLines : List (List Char) → List (List Char)
  | [] => []
  | line :: lines => if isIdleLine line then dropIdleLines lines else line :: lines

/-- The lexemes of an expression. Only idle lines may stand before its line, which is not
indented, and after it. -/
def ofText (s : List Char) : Option (List Lexeme) :=
  match dropIdleLines ((normalizeLines s).splitOn '\n') with
  | [] => some []
  | line :: lines =>
    if line.head?.any isBlank then none
    else scan [] (List.intercalate ['\n'] (line :: lines))

end Lexeme

end Curly
