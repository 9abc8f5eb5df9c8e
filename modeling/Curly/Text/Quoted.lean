import Curly.Text.Unicode.Printable

/-!
Quoted texts: the written form of a text or of bytes between single quotes, or between double
quotes where that saves escapes.
-/

namespace Curly.Text.Quoted

/-- `n` in hexadecimal with `width` digits. -/
def hex (width n : Nat) : List Char :=
  let ds := Nat.toDigits 16 n
  List.replicate (width - ds.length) '0' ++ ds

/-- The quote for a text: the single one, unless the text has single quotes and no double ones. -/
def quoteFor (s : List Char) : Char :=
  if s.contains '\'' && !s.contains '"' then '"' else '\''

/-- A character by its code point, in as many digits as its size needs. -/
def byCode (c : Char) : List Char :=
  if c.toNat < 0x100 then '\\' :: 'x' :: hex 2 c.toNat
  else if c.toNat < 0x10000 then '\\' :: 'u' :: hex 4 c.toNat
  else '\\' :: 'U' :: hex 8 c.toNat

/-- A character between quotes: the quote and the backslash follow a backslash, three controls
have letters, and what cannot be printed is written by its code point. -/
def encodeChar (quote c : Char) : List Char :=
  if c == quote || c == '\\' then ['\\', c]
  else if c == '\t' then ['\\', 't']
  else if c == '\n' then ['\\', 'n']
  else if c == '\r' then ['\\', 'r']
  else if Unicode.isPrintable c then [c]
  else byCode c

/-- The written form of a text. -/
def encode (s : List Char) : List Char :=
  let quote := quoteFor s
  quote :: s.flatMap (encodeChar quote) ++ [quote]

/-- The written form of a string. -/
def ofString (s : String) : String := String.ofList (encode s.toList)

/-- The written form of bytes: those of ASCII as characters, the others by number. -/
def encodeBytes (bs : List UInt8) : List Char :=
  let quote := quoteFor (bs.map fun b => Char.ofNat b.toNat)
  'b' :: quote :: bs.flatMap (fun b =>
    if b.toNat < 0x80 then encodeChar quote (Char.ofNat b.toNat)
    else '\\' :: 'x' :: hex 2 b.toNat) ++ [quote]

/-- A quoted text ends in the quote that it begins with. -/
theorem encode_ends (s : List Char) :
    ∃ body, encode s = quoteFor s :: body ++ [quoteFor s] := ⟨_, rfl⟩

end Curly.Text.Quoted
