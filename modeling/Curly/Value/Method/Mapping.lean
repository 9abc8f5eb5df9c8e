import Curly.Value.Method.Parameter

/-!
Tables of characters: what every character of a text is replaced by.
-/

namespace Curly.Value

/-- What a table has for a character; the character itself where it has nothing. -/
def mappedChar (table : Value) (c : Char) : Except Fault (List Char) :=
  match table.subscript (.int c.toNat) with
  | .error f =>
    if f.faultClass == .key || f.faultClass == .index then .ok [c] else .error f
  | .ok .none => .ok []
  | .ok (.str s) => .ok s.toList
  | .ok v =>
    match v.integer? with
    | some n =>
      if n < 0 ∨ 0x110000 ≤ n then .error .characterRange
      else if 0xD800 ≤ n ∧ n < 0xE000 then .error (.unsupported "half a character")
      else .ok [Char.ofNat n.toNat]
    | Option.none => .error .characterMapping

/-- A text with every character replaced as a table says. -/
def translate (s : List Char) (table : Value) : Except Fault Value := do
  return ofChars (← s.mapM table.mappedChar).flatten

/-- The key of an entry of a table. -/
def tableKey : Value → Except Fault Value
  | .str s =>
    match s.toList with
    | [c] => .ok (.int c.toNat)
    | _ => .error .tableKeyLength
  | v => if v.integer?.isSome then .ok v else .error .tableKey

/-- The table of a dictionary, or of texts: every character of the first goes to that at the same
place of the second, and those of the third are left out. -/
def tableOf (a : Arguments) : Except Fault Value := do
  a.noKeywords "str.maketrans"
  let args ← a.expect "maketrans" 1 3
  let text (i : Nat) (v : Value) := v.textFor (.argumentText "maketrans" i)
  let code (c : Char) : Value := .int c.toNat
  match args with
  | [.dict entries] =>
    let entries ← entries.mapM fun (k, v) => return (← tableKey k, v)
    return .dict (entries.foldl (fun done (k, v) => insert k v done) [])
  | [_] => throw .tableNeeded
  | first :: second :: more =>
    let second ← text 2 second
    let third ← more.mapM (text 3)
    let first ← first.textOr fun _ => .tableFirst
    if first.length ≠ second.length then throw .tableLengths
    let pairs := (first.zip second).map fun (c, d) => (code c, code d)
    let left := third.flatten.map fun c => (code c, Value.none)
    return .dict ((pairs ++ left).foldl (fun done (k, v) => insert k v done) [])
  | [] => throw .tableNeeded

end Curly.Value
