import Curly.Value.Method.Parameter

/-!
Methods that turn texts into bytes, bytes into texts, and integers into bytes and back.
-/

namespace Curly

open Curly.Text

/-- What is done where an encoding has no bytes for a character, or no character for bytes. -/
inductive Mending
  | refuse
  | leaveOut
  | replace
  /-- The character by its number, as marked-up texts refer to it. -/
  | refer
  /-- The number of the character or of the bytes, after a backslash. -/
  | escape
  | unknown (name : String)
  deriving DecidableEq, Inhabited

namespace Mending

/-- The mending with a name. -/
def ofName : String → Mending
  | "strict" | "surrogateescape" | "surrogatepass" => .refuse
  | "ignore" => .leaveOut
  | "replace" => .replace
  | "xmlcharrefreplace" => .refer
  | "backslashreplace" => .escape
  | name => .unknown name

/-- What stands for a character that has no bytes. -/
def written (m : Mending) (c : Char) : List Char :=
  match m with
  | .replace => ['?']
  | .refer => s!"&#{c.toNat};".toList
  | .escape => Quoted.byCode c
  | _ => []

/-- What stands for bytes that are no character. -/
def read (m : Mending) (bs : List UInt8) : List Char :=
  match m with
  | .replace => [Char.ofNat 0xFFFD]
  | .escape => bs.flatMap fun b => '\\' :: 'x' :: Quoted.hex 2 b.toNat
  | _ => []

end Mending

/-- The bytes of a text. -/
def Text.Encoding.encode (e : Encoding) (m : Mending) (s : List Char) :
    Except Fault (List UInt8) := do
  let parts ← s.zipIdx.mapM fun (c, i) =>
    match e.bytesOf? c, m with
    | some b, _ => pure b
    | none, .refuse => throw (.unencodable (e.unencodable c i (s.drop (i + 1))))
    | none, .unknown name => throw (.unknownMending name)
    | none, m => pure ((m.written c).flatMap fun c => (e.bytesOf? c).getD [])
  return e.mark ++ parts.flatten

/-- The text of bytes. What is no character is mended, one piece at a time. -/
def Text.Encoding.decodeMending (m : Mending) :
    (fuel : Nat) → Encoding → List UInt8 → Except Fault (List Char)
  | 0, _, _ => .ok []
  | fuel + 1, e, bs =>
    match e.decode bs, m with
    | .ok s, _ => .ok s
    | .error u, .refuse => .error (.undecodable u)
    | .error _, .unknown name => .error (.unknownMending name)
    | .error _, .refer => .error .decodingMending
    | .error u, m => do
      let before := (e.decode (bs.take u.first)).toOption.getD []
      let bad := (bs.take (u.last + 1)).drop u.first
      let rest ← decodeMending m fuel (e.afterMark bs) (bs.drop (u.last + 1))
      return before ++ m.read bad ++ rest

namespace Value

/-- The encoding and the mending that a method is asked for. -/
def codingOf (function : String) (a : Arguments) : Except Fault (String × Mending) := do
  let args ← a.optional function ["encoding", "errors"]
  let encoding ← optionText? function "encoding" (option? args 0)
  let errors ← optionText? function "errors" (option? args 1)
  return (encoding.getD "utf-8", Mending.ofName (errors.getD "strict"))

/-- The bytes of a text in an encoding. -/
def encodeText (a : Arguments) (s : List Char) : Except Fault Value := do
  let (name, mending) ← codingOf "encode" a
  return .bytes (← (← encodingNamed "encode" name).encode mending s)

/-- The text of bytes in an encoding. Where there are none, any encoding will do. -/
def decodeIn (name : String) (m : Mending) (b : List UInt8) : Except Fault Value :=
  if b.isEmpty then .ok (.str "")
  else do
    let e ← encodingNamed "decode" name
    return ofChars (← Text.Encoding.decodeMending m (b.length + 1) e b)

/-- The text of bytes. -/
def decodeBytes (a : Arguments) (b : List UInt8) : Except Fault Value := do
  let (name, mending) ← codingOf "decode" a
  decodeIn name mending b

/-- The one character between groups of digits. -/
def separatorOf (v : Value) : Except Fault Char := do
  let n ← v.length
  if n ≠ 1 then throw .separatorLength
  let c ← match v with
    | .str s => pure (s.toList.headD ' ')
    | .bytes b => pure (Char.ofNat (b.headD 0).toNat)
    | _ => throw .separatorType
  if c.toNat < 128 then return c else throw .separatorRange

/-- Bytes in hexadecimal, perhaps in groups, which are counted from the end, or from the start if
their size is negative. -/
def hexBytes (a : Arguments) (b : List UInt8) : Except Fault Value := do
  let args ← a.optional "hex" ["sep", "bytes_per_sep"]
  let group ← countOr 1 (option? args 1)
  let sep ← (option? args 0).mapM separatorOf
  let begins (i : Nat) : Bool :=
    0 < i && group ≠ 0 && (if 0 < group then b.length - i else i) % group.natAbs == 0
  return ofChars (b.zipIdx.flatMap fun (n, i) =>
    (if begins i then sep.toList else []) ++ Quoted.hex 2 n.toNat)

/-- Whether the low byte comes first. -/
def isLowFirst (function : String) (order : Option Value) : Except Fault Bool := do
  match ← optionText? function "byteorder" order with
  | Option.none | some "big" => return false
  | some "little" => return true
  | some _ => throw .byteOrder

/-- Whether an optional parameter is true. -/
def isSet (v : Option Value) : Bool := (v.map isTrue).getD false

/-- The low `n` bytes of a number, the lowest one first. -/
def lowBytes : (n : Nat) → Int → List UInt8
  | 0, _ => []
  | n + 1, i => UInt8.ofNat (i % 256).toNat :: lowBytes n (i / 256)

/-- An integer as bytes. -/
def integerToBytes (i : Int) (a : Arguments) : Except Fault Value := do
  let args ← a.named "to_bytes" ["length", "byteorder", "signed"] 0 2
  let length ← ((option? args 0).map size).getD (.ok 1)
  let order ← optionText? "to_bytes" "byteorder" (option? args 1)
  let lowFirst ← isLowFirst "to_bytes" (order.map .str)
  if length < 0 then throw .negativeLength
  let n := length.toNat
  let signed := isSet (option? args 2)
  if i < 0 ∧ !signed then throw .negativeToUnsigned
  let room := if signed then 8 * n - 1 else 8 * n
  let magnitude := if i < 0 then (-i - 1).toNat else i.toNat
  if magnitude ≠ 0 ∧ room ≤ magnitude.log2 then throw .tooManyBits
  let bytes := lowBytes n i
  return .bytes (if lowFirst then bytes else bytes.reverse)

/-- The bytes that a value gives. -/
def byteSource (v : Value) : Except Fault (List UInt8) :=
  match v, v.elements? with
  | .bytes b, _ => .ok b
  | .str _, _ | _, Option.none => .error (.notByteSource v.typeName)
  | _, some items => items.mapM fun item => do
    let n ← item.index
    if 0 ≤ n ∧ n < 256 then return UInt8.ofNat n.toNat else throw .byteItemRange

/-- The integer of bytes, the lowest one first. -/
def ofLowBytes (b : List UInt8) : Nat := b.foldr (fun n acc => n.toNat + 256 * acc) 0

/-- An integer from bytes. -/
def integerFromBytes (a : Arguments) : Except Fault Int := do
  let args ← a.named "from_bytes" ["bytes", "byteorder", "signed"] 1 2
  let lowFirst ← isLowFirst "from_bytes" (option? args 1)
  let b ← ((option? args 0).getD .none).byteSource
  let n := ofLowBytes (if lowFirst then b else b.reverse)
  let wraps := isSet (option? args 2) && Nat.pow 2 (8 * b.length) ≤ 2 * n && !b.isEmpty
  return if wraps then (n : Int) - Nat.pow 2 (8 * b.length) else n

end Value

end Curly
