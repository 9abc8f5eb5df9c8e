/-!
Bytes written in base 64: four characters for three bytes, and an equals sign for what the last
three lack. Other characters are passed over.
-/

namespace Curly.Text.Base64

/-- The six bits that a character stands for. -/
def digit? (c : Char) : Option Nat :=
  if 'A' ≤ c && c ≤ 'Z' then some (c.toNat - 65)
  else if 'a' ≤ c && c ≤ 'z' then some (c.toNat - 71)
  else if c.isDigit then some (c.toNat + 4)
  else if c == '+' then some 62
  else if c == '/' then some 63
  else none

/-- The bytes that the rest of a text writes. `place` is how many characters of a group were read,
`rest` the bits left of them, and `pads` the equals signs in a row. A group that is not full ends
the text only with enough equals signs. -/
def decodeFrom (place rest pads : Nat) : List Char → Option (List UInt8)
  | [] => if place = 0 then some [] else none
  | c :: cs =>
    if c = '=' then
      if 2 ≤ place then
        if 4 ≤ place + (pads + 1) then some [] else decodeFrom place rest (pads + 1) cs
      else decodeFrom place rest pads cs
    else match digit? c with
      | none => decodeFrom place rest pads cs
      | some d =>
        match place with
        | 0 => decodeFrom 1 d 0 cs
        | 1 => (UInt8.ofNat (rest * 4 + d / 16) :: ·) <$> decodeFrom 2 (d % 16) 0 cs
        | 2 => (UInt8.ofNat (rest * 16 + d / 4) :: ·) <$> decodeFrom 3 (d % 4) 0 cs
        | _ => (UInt8.ofNat (rest * 64 + d) :: ·) <$> decodeFrom 0 0 0 cs

/-- The bytes that a text writes. -/
def decode (s : List Char) : Option (List UInt8) := decodeFrom 0 0 0 s

/-- Full groups: three bytes, all six bits of each character used. -/
example : decode "SGkh".toList = some [72, 105, 33] := by decide

/-- A last group with one byte. -/
example : decode "SA==".toList = some [72] := by decide

end Curly.Text.Base64
