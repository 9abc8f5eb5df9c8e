import Curly.Text.Quoted

/-!
What can be wrong with the fields of a text that is to be filled in, and with their styles.
-/

namespace Curly

/-- What is wrong with a field or its style. -/
inductive FieldFault
  /-- A brace that stands alone. -/
  | singleBrace (brace : Char)
  | braceInName
  | noConversion
  | conversionEnd
  | openStyle
  | openField
  | unknownConversion (code : Char)
  | toAutomatic
  | toManual
  | tooDeep
  | emptyStep
  | afterBracket
  | openBracket
  | tooManyDigits
  | missingPlace (place : Nat)
  | placeInMapping
  | unknownCode (code : Char) (type : String)
  | invalidStyle (style type : String)
  | twoSeparators
  | separatorWith (separator code : Char)
  | noPrecision
  | notAllowed (what kind : String)
  | notWithCharacter (what : String)
  | characterRange
  | characterSize
  | precisionSize
  | noStyles (type : String)
  deriving DecidableEq, Inhabited

namespace FieldFault

/-- A character of a style; it is shown by its code unless it is a visible one of ASCII. -/
def shown (c : Char) : String :=
  if 32 < c.toNat && c.toNat < 128 then String.singleton c
  else "\\x" ++ String.ofList (Nat.toDigits 16 c.toNat)

/-- What is said of a fault. -/
def message : FieldFault → String
  | .singleBrace c => s!"Single '{c}' encountered in format string"
  | .braceInName => "unexpected '\x7b' in field name"
  | .noConversion => "end of string while looking for conversion specifier"
  | .conversionEnd => "expected ':' after conversion specifier"
  | .openStyle => "unmatched '\x7b' in format spec"
  | .openField => "expected '\x7d' before end of string"
  | .unknownConversion c =>
    "Unknown conversion specifier " ++ if c == '\x7f' then "\\x7f" else shown c
  | .toAutomatic =>
    "cannot switch from manual field specification to automatic field numbering"
  | .toManual => "cannot switch from automatic field numbering to manual field specification"
  | .tooDeep => "Max string recursion exceeded"
  | .emptyStep => "Empty attribute in format string"
  | .afterBracket => "Only '.' or '[' may follow ']' in format field specifier"
  | .openBracket => "Missing ']' in format string"
  | .tooManyDigits => "Too many decimal digits in format string"
  | .missingPlace n => s!"Replacement index {n} out of range for positional args tuple"
  | .placeInMapping => "Format string contains positional fields"
  | .unknownCode c t => s!"Unknown format code '{shown c}' for object of type '{t}'"
  | .invalidStyle s t => s!"Invalid format specifier '{s}' for object of type '{t}'"
  | .twoSeparators => "Cannot specify both ',' and '_'."
  | .separatorWith sep c => s!"Cannot specify '{sep}' with '{shown c}'."
  | .noPrecision => "Format specifier missing precision"
  | .notAllowed what kind => s!"{what} not allowed in {kind} format specifier"
  | .notWithCharacter what => s!"{what} not allowed with integer format specifier 'c'"
  | .characterRange => "%c arg not in range(0x110000)"
  | .characterSize => "Python int too large to convert to C long"
  | .precisionSize => "precision too big"
  | .noStyles t => s!"unsupported format string passed to {t}.__format__"

end FieldFault

end Curly
