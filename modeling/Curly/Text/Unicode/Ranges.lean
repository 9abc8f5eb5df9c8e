/-!
Sets of characters and mappings between characters, written as texts: a set as runs of code points
`41-5A 61-7A AA`, a mapping as runs that move by a distance, `61-7A~20` down and `41-5A+20` up
(with `/2` when only every second code point of the run moves).
-/

namespace Curly.Text.Unicode

/-- The value of a hexadecimal digit. -/
def hexValue (c : Char) : Nat :=
  if c.isDigit then c.toNat - 48 else if c.isUpper then c.toNat - 55 else c.toNat - 87

/-- The number that hexadecimal digits write. -/
def readHex (s : List Char) : Nat := s.foldl (fun n c => 16 * n + hexValue c) 0

/-- The pieces between the blanks and line ends of a table. -/
def entries (table : String) : List (List Char) :=
  (table.toList.splitBy fun a b => !a.isWhitespace && !b.isWhitespace).filter
    fun w => !w.any Char.isWhitespace

/-- What stands before the first of the given marks, and after it. -/
def before (mark : Char) (s : List Char) : List Char × Option (List Char) :=
  match s.dropWhile (· != mark) with
  | [] => (s, none)
  | _ :: rest => (s.takeWhile (· != mark), some rest)

/-- A set of characters: runs of code points with both ends. -/
abbrev Ranges := List (Nat × Nat)

/-- Reads a table of runs. -/
def Ranges.ofText (table : String) : Ranges :=
  (entries table).map fun w =>
    match before '-' w with
    | (lo, some hi) => (readHex lo, readHex hi)
    | (lo, none) => (readHex lo, readHex lo)

/-- The first code point of the run that holds a character. -/
def Ranges.start? (r : Ranges) (c : Char) : Option Nat :=
  (r.find? fun (lo, hi) => lo ≤ c.toNat && c.toNat ≤ hi).map (·.1)

/-- Whether a character is in the set. -/
def Ranges.contains (r : Ranges) (c : Char) : Bool := (r.start? c).isSome

/-- Characters `lo`, `lo + step`, … up to `hi` that move by one distance. -/
structure CaseMove where
  lo : Nat
  hi : Nat
  step : Nat
  distance : Int

/-- A mapping from characters to texts: moves, and characters that become several. -/
structure CaseMap where
  moves : List CaseMove
  expansions : List (Nat × List Char)

/-- Reads one move. -/
def CaseMove.ofText (w : List Char) : CaseMove :=
  let (run, distance) : List Char × Int :=
    match before '+' w with
    | (run, some up) => (run, readHex up)
    | _ =>
      match before '~' w with
      | (run, some down) => (run, -readHex down)
      | _ => (w, 0)
  let (run, step) := before '/' run
  match before '-' run with
  | (lo, some hi) => ⟨readHex lo, readHex hi, if step.isSome then 2 else 1, distance⟩
  | (lo, none) => ⟨readHex lo, readHex lo, 1, distance⟩

/-- Reads a mapping: its moves, and its expansions written `DF=53.53`. -/
def CaseMap.ofText (moves expansions : String) : CaseMap :=
  ⟨(entries moves).map CaseMove.ofText,
    (entries expansions).map fun w =>
      match before '=' w with
      | (c, some t) =>
        (readHex c, ((t.splitBy fun a b => a != '.' && b != '.').filter (· != ['.'])).map
          fun d => Char.ofNat (readHex d))
      | (c, none) => (readHex c, [])⟩

/-- The image of a character; one that the mapping does not name stays. -/
def CaseMap.apply (m : CaseMap) (c : Char) : List Char :=
  match m.expansions.find? (·.1 == c.toNat) with
  | some (_, t) => t
  | none =>
    match m.moves.find? fun v =>
        v.lo ≤ c.toNat && c.toNat ≤ v.hi && (c.toNat - v.lo) % v.step == 0 with
    | some v => [Char.ofNat (c.toNat + v.distance).toNat]
    | none => [c]

end Curly.Text.Unicode
