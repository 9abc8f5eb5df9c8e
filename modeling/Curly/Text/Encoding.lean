/-!
Encodings: how bytes stand for characters. Bytes that stand for none, and characters that have no
bytes, are reported with their place.
-/

namespace Curly.Text

/-- Encodings. -/
inductive Encoding
  | utf8
  /-- UTF-8 after a mark that is no part of the text. -/
  | utf8Marked
  | ascii
  | latin1
  | windows1252
  /-- UTF-16 in the order that a mark gives, or else with the low byte first. -/
  | utf16
  | utf16Low
  | utf16High
  deriving DecidableEq, Inhabited

/-- Bytes that stand for no character: which encoding says so, the first of them, where it and the
last one stand, and why. -/
structure Undecodable where
  encoding : String
  byte : Nat
  first : Nat
  last : Nat
  reason : String
  deriving DecidableEq, Inhabited

/-- Characters that have no bytes: which encoding says so, the first of them, where it and the last
one stand, and why. -/
structure Unencodable where
  encoding : String
  char : Char
  first : Nat
  last : Nat
  reason : String
  deriving DecidableEq, Inhabited

namespace Encoding

/-- A name of an encoding in its plain form: lower case, with single low lines for whatever stands
between letters and digits. -/
def plainName (name : String) : String :=
  let isPart (c : Char) := c.isAlphanum || c == '.'
  let marked := name.toList.map fun c => if isPart c then c.toLower else ' '
  let (word, done) := marked.foldr (fun c (word, done) =>
    if c == ' ' then ([], if word.isEmpty then done else word :: done) else (c :: word, done))
    ([], ([] : List (List Char)))
  let words := if word.isEmpty then done else word :: done
  String.ofList (['_'].intercalate words)

/-- The names of an encoding. -/
def names : Encoding → List String
  | .utf8 => ["utf_8", "utf8", "u8", "utf", "utf8_ucs2", "utf8_ucs4", "cp65001"]
  | .utf8Marked => ["utf_8_sig"]
  | .ascii =>
    ["ascii", "us_ascii", "us", "646", "ansi_x3.4_1968", "ansi_x3_4_1968", "ansi_x3.4_1986",
      "cp367", "csascii", "ibm367", "iso646_us", "iso_646.irv_1991", "iso_ir_6"]
  | .latin1 =>
    ["latin_1", "latin1", "latin", "l1", "iso_8859_1", "iso8859_1", "iso8859", "8859", "cp819",
      "csisolatin1", "ibm819", "iso_8859_1_1987", "iso_ir_100"]
  | .windows1252 => ["cp1252", "1252", "windows_1252"]
  | .utf16 => ["utf_16", "u16", "utf16"]
  | .utf16Low => ["utf_16_le", "utf_16le", "unicodelittleunmarked"]
  | .utf16High => ["utf_16_be", "utf_16be", "unicodebigunmarked"]

/-- Every encoding. -/
def all : List Encoding :=
  [.utf8, .utf8Marked, .ascii, .latin1, .windows1252, .utf16, .utf16Low, .utf16High]

/-- The encoding with a name. -/
def ofName? (name : String) : Option Encoding := all.find? (·.names.contains (plainName name))

/-- Names of encodings that are not of texts. -/
def otherNames : List String :=
  ["hex", "hex_codec", "base64", "base_64", "base64_codec", "rot13", "rot_13", "zip", "zlib",
    "zlib_codec", "bz2", "bz2_codec", "quopri", "quoted_printable", "quotedprintable",
    "quopri_codec", "uu", "uu_codec"]

/-- Whether a name is that of an encoding that is not of texts. -/
def isOther (name : String) : Bool := otherNames.contains (plainName name)

/-- Whether a byte goes on with a character that has begun. -/
def isContinuation (b : UInt8) : Bool := b &&& 0xC0 == 0x80

/-- The six bits of a byte that goes on with a character. -/
def low (b : UInt8) : Nat := (b &&& 0x3F).toNat

/-- Whether the second byte of a character does not fit the first. Spellings that are too long,
surrogates and what is beyond the last character are left out. -/
def isMisfit (first second : UInt8) : Bool :=
  !isContinuation second ||
    (first == 0xE0 && second < 0xA0) || (first == 0xED && 0xA0 ≤ second) ||
    (first == 0xF0 && second < 0x90) || (first == 0xF4 && 0x90 ≤ second)

/-- What is wrong with `n` bytes from a place on. -/
def fault (encoding : String) (place n : Nat) (b : UInt8) (reason : String) : Undecodable :=
  ⟨encoding, b.toNat, place, place + n - 1, reason⟩

/-- Decodes UTF-8 from a place on; `done` is what was decoded, backwards. -/
def decodeUtf8From (place : Nat) (done : List Char) :
    List UInt8 → Except Undecodable (List Char)
  | [] => .ok done.reverse
  | a :: rest =>
    let bad (n : Nat) (reason : String) := Except.error (fault "utf-8" place n a reason)
    let cut (n : Nat) := bad n "unexpected end of data"
    let wrong (n : Nat) := bad n "invalid continuation byte"
    if a < 0x80 then decodeUtf8From (place + 1) (Char.ofNat a.toNat :: done) rest
    -- Continuation bytes, the two leads of overlong forms, and leads beyond the last character.
    else if a < 0xC2 || 0xF4 < a then bad 1 "invalid start byte"
    else
      match rest with
      | [] => cut 1
      | b :: rest =>
        if isMisfit a b then wrong 1
        else if a < 0xE0 then
          decodeUtf8From (place + 2)
            (Char.ofNat ((a &&& 0x1F).toNat * 64 + low b) :: done) rest
        else
          match rest with
          | [] => cut 2
          | c :: rest =>
            if !isContinuation c then wrong 2
            else if a < 0xF0 then
              decodeUtf8From (place + 3)
                (Char.ofNat (((a &&& 0x0F).toNat * 64 + low b) * 64 + low c) :: done) rest
            else
              match rest with
              | [] => cut 3
              | d :: rest =>
                if !isContinuation d then wrong 3
                else
                  decodeUtf8From (place + 4)
                    (Char.ofNat ((((a &&& 0x07).toNat * 64 + low b) * 64 + low c) * 64 + low d) ::
                      done) rest

/-- Decodes bytes that stand for one character each, or for none. -/
def decodeBytesFrom (encoding reason : String) (char? : Nat → Option Char) (place : Nat)
    (done : List Char) : List UInt8 → Except Undecodable (List Char)
  | [] => .ok done.reverse
  | b :: bs =>
    match char? b.toNat with
    | some c => decodeBytesFrom encoding reason char? (place + 1) (c :: done) bs
    | none => .error (fault encoding place 1 b reason)

/-- Decodes UTF-16, with the low or the high byte first. -/
def decodeUtf16From (highFirst : Bool) (place : Nat) (done : List Char) :
    List UInt8 → Except Undecodable (List Char)
  | [] => .ok done.reverse
  | a :: rest =>
    let name := if highFirst then "utf-16-be" else "utf-16-le"
    let unit (a b : UInt8) : Nat := if highFirst then a.toNat * 256 + b.toNat
      else b.toNat * 256 + a.toNat
    match rest with
    | [] => .error (fault name place 1 a "truncated data")
    | b :: rest =>
      let u := unit a b
      if u < 0xD800 || 0xE000 ≤ u then
        decodeUtf16From highFirst (place + 2) (Char.ofNat u :: done) rest
      -- The second half of a pair that has no first half.
      else if 0xDC00 ≤ u then .error (fault name place 2 a "illegal encoding")
      else
        match rest with
        | c :: d :: rest =>
          let v := unit c d
          if 0xDC00 ≤ v && v < 0xE000 then
            decodeUtf16From highFirst (place + 4)
              (Char.ofNat (0x10000 + (u - 0xD800) * 1024 + (v - 0xDC00)) :: done) rest
          else .error (fault name place 2 a "illegal UTF-16 surrogate")
        | rest => .error (fault name place (2 + rest.length) a "unexpected end of data")

/-- The characters from 0x80 to 0x9F of the Windows code page; a zero stands for none. -/
def windowsTable : List Nat :=
  [0x20AC, 0, 0x201A, 0x0192, 0x201E, 0x2026, 0x2020, 0x2021, 0x02C6, 0x2030, 0x0160, 0x2039,
    0x0152, 0, 0x017D, 0, 0, 0x2018, 0x2019, 0x201C, 0x201D, 0x2022, 0x2013, 0x2014, 0x02DC,
    0x2122, 0x0161, 0x203A, 0x0153, 0, 0x017E, 0x0178]

/-- The character of a byte in the Windows code page. -/
def windowsChar? (n : Nat) : Option Char :=
  if n < 0x80 || 0xA0 ≤ n then some (Char.ofNat n)
  else
    match windowsTable[n - 0x80]? with
    | some 0 | none => none
    | some code => some (Char.ofNat code)

/-- Decodes bytes. -/
def decode (e : Encoding) (bs : List UInt8) : Except Undecodable (List Char) :=
  match e with
  | .utf8 => decodeUtf8From 0 [] bs
  | .utf8Marked =>
    match bs with
    | 0xEF :: 0xBB :: 0xBF :: rest => decodeUtf8From 0 [] rest
    | bs => decodeUtf8From 0 [] bs
  | .ascii =>
    decodeBytesFrom "ascii" "ordinal not in range(128)"
      (fun n => if n < 0x80 then some (Char.ofNat n) else none) 0 [] bs
  | .latin1 => decodeBytesFrom "latin-1" "" (fun n => some (Char.ofNat n)) 0 [] bs
  | .windows1252 =>
    decodeBytesFrom "charmap" "character maps to <undefined>" windowsChar? 0 [] bs
  | .utf16 =>
    match bs with
    | 0xFF :: 0xFE :: rest => decodeUtf16From false 2 [] rest
    | 0xFE :: 0xFF :: rest => decodeUtf16From true 2 [] rest
    | bs => decodeUtf16From false 0 [] bs
  | .utf16Low => decodeUtf16From false 0 [] bs
  | .utf16High => decodeUtf16From true 0 [] bs

/-- The byte of a character in the Windows code page. -/
def windowsByte? (c : Char) : Option Nat :=
  let n := c.toNat
  if n < 0x80 || (0xA0 ≤ n && n < 0x100) then some n
  else if n = 0 then none
  else (windowsTable.findIdx? (· == n)).map (· + 0x80)

/-- The units of a character in UTF-16. -/
def units (c : Char) : List Nat :=
  let n := c.toNat
  if n < 0x10000 then [n]
  else [0xD800 + (n - 0x10000) / 1024, 0xDC00 + (n - 0x10000) % 1024]

/-- The bytes of a character, if it has any. -/
def bytesOf? (e : Encoding) (c : Char) : Option (List UInt8) :=
  let upTo (limit : Nat) := if c.toNat < limit then some [UInt8.ofNat c.toNat] else none
  match e with
  | .utf8 | .utf8Marked => some (String.singleton c).toUTF8.toList
  | .ascii => upTo 0x80
  | .latin1 => upTo 0x100
  | .windows1252 => (windowsByte? c).map fun n => [UInt8.ofNat n]
  | .utf16 | .utf16Low => some ((units c).flatMap fun u => [UInt8.ofNat u, UInt8.ofNat (u / 256)])
  | .utf16High => some ((units c).flatMap fun u => [UInt8.ofNat (u / 256), UInt8.ofNat u])

/-- The mark that stands in front of a text. -/
def mark : Encoding → List UInt8
  | .utf8Marked => [0xEF, 0xBB, 0xBF]
  | .utf16 => [0xFF, 0xFE]
  | _ => []

/-- The encoding of what follows the mark, if there is one. -/
def afterMark (e : Encoding) (bs : List UInt8) : Encoding :=
  match e, bs with
  | .utf8Marked, _ => .utf8
  | .utf16, 0xFE :: 0xFF :: _ => .utf16High
  | .utf16, _ => .utf16Low
  | e, _ => e

/-- What is reported of the characters that have no bytes, from a place in a text on. -/
def unencodable (e : Encoding) (c : Char) (place : Nat) (following : List Char) : Unencodable :=
  let last := place + (following.takeWhile fun c => (e.bytesOf? c).isNone).length
  match e with
  | .ascii => ⟨"ascii", c, place, last, "ordinal not in range(128)"⟩
  | .latin1 => ⟨"latin-1", c, place, last, "ordinal not in range(256)"⟩
  | _ => ⟨"charmap", c, place, last, "character maps to <undefined>"⟩

end Encoding

end Curly.Text
