/-!
Tags: what kind of value a node stands for. A plain scalar without a tag tells it by its form.
-/

namespace Curly.Yaml

/-- Tags. -/
inductive Tag
  | null
  | bool
  | int
  | float
  | binary
  | str
  | seq
  | map
  | set
  | omap
  | pairs
  | merge
  | value
  | unknown
  deriving DecidableEq, Inhabited

namespace Tag

/-- What the names of all known tags begin with. -/
def domain : String := "tag:yaml.org,2002:"

/-- The known tags with their names. -/
def known : List (String × Tag) :=
  [("null", .null), ("bool", .bool), ("int", .int), ("float", .float), ("binary", .binary),
    ("str", .str), ("seq", .seq), ("map", .map), ("set", .set), ("omap", .omap),
    ("pairs", .pairs), ("merge", .merge), ("value", .value)]

/-- The tag with a name. -/
def ofName (name : String) : Tag :=
  ((known.find? fun (n, _) => domain ++ n == name).map (·.2)).getD .unknown

/-! ## Forms of plain scalars -/

/-- The words of truth values. -/
def boolWords : List String := ["true", "True", "TRUE", "false", "False", "FALSE"]

/-- The words of nothing. -/
def nullWords : List String := ["", "~", "null", "Null", "NULL"]

/-- A text without the sign in front. -/
def unsigned : List Char → List Char
  | '+' :: cs => cs
  | '-' :: cs => cs
  | cs => cs

/-- Whether a text is a run of characters of a kind, which is not empty. -/
def isRun (p : Char → Bool) (s : List Char) : Bool := !s.isEmpty && s.all p

/-- Decimal digits and low lines. -/
def isDigitOrLine (c : Char) : Bool := c.isDigit || c == '_'

/-- Whether a text is the exponent of a number; the sign of the exponent may be required. -/
def isExponent (signed : Bool) : List Char → Bool
  | [] => false
  | e :: cs =>
    let ds := unsigned cs
    (e == 'e' || e == 'E') && isRun Char.isDigit ds && (!signed || ds.length < cs.length)

/-- Whether a text writes an integer: with two, eight, ten or sixteen digits. It does not begin with
a low line. -/
def isInteger (s : List Char) : Bool :=
  s.head? != some '_' && match unsigned s with
  | '0' :: 'b' :: ds => isRun (fun c => c == '0' || c == '1' || c == '_') ds
  | '0' :: 'o' :: ds => isRun (fun c => c.isDigit && c < '8' || c == '_') ds
  | '0' :: 'x' :: ds =>
    isRun (fun c => isDigitOrLine c || ('a' ≤ c && c ≤ 'f') || ('A' ≤ c && c ≤ 'F')) ds
  | ds => isRun isDigitOrLine ds

/-- Whether a text writes a number with a point or an exponent. -/
def isDecimal (s : List Char) : Bool :=
  let whole := s.takeWhile isDigitOrLine
  match s.drop whole.length with
  | '.' :: rest =>
    let fraction := rest.takeWhile isDigitOrLine
    let rest := rest.drop fraction.length
    if whole.isEmpty then !fraction.isEmpty && (rest.isEmpty || isExponent true rest)
    else whole.head?.any Char.isDigit && (rest.isEmpty || isExponent false rest)
  | rest => whole.head?.any Char.isDigit && isExponent false rest

/-- Whether a text writes a floating-point number, an infinity, or what is no number. -/
def isFloat (s : List Char) : Bool :=
  isDecimal (unsigned s) ||
    [".inf", ".Inf", ".INF"].contains (String.ofList (unsigned s)) ||
    [".nan", ".NaN", ".NAN"].contains (String.ofList s)

/-- The tag that a plain scalar has by its form. -/
def ofPlain (text : String) : Tag :=
  let s := text.toList
  if boolWords.contains text then .bool
  else if isFloat s then .float
  else if isInteger s then .int
  else if text == "<<" then .merge
  else if nullWords.contains text then .null
  else if text == "=" then .value
  else .str

end Tag

end Curly.Yaml
