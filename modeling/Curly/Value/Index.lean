import Curly.Text.Search
import Curly.Value.Arithmetic
import Curly.Value.Text

/-!
What a container holds: its length, its elements, what stands at an index or a key, and slices of
sequences.
-/

namespace Curly

/-- A bound of a slice brought into the range of a sequence of `n` items. -/
def clampBound (n : Nat) (backward : Bool) (i : Int) : Int :=
  let low : Int := if backward then -1 else 0
  let high : Int := if backward then (n : Int) - 1 else n
  let j := if i < 0 then i + n else i
  max low (min high j)

/-- Where a slice of a sequence of `n` items starts, and where it stops. -/
def sliceBounds (n : Nat) (lower upper : Option Int) (step : Int) : Int × Int :=
  let backward := decide (step < 0)
  let first : Int := if backward then (n : Int) - 1 else 0
  let last : Int := if backward then -1 else n
  ((lower.map (clampBound n backward)).getD first, (upper.map (clampBound n backward)).getD last)

/-- The items of a list from a position on, `step` apart. -/
def everyNth (items : Array α) (start step : Int) (count : Nat) : List α :=
  (List.range count).filterMap fun (i : Nat) => items[(start + i * step).toNat]?

/-- A slice of a list. -/
def sliceList (lower upper : Option Int) (step : Int) (items : List α) : List α :=
  let (start, stop) := sliceBounds items.length lower upper step
  if step = 1 then (items.take stop.toNat).drop start.toNat
  else everyNth items.toArray start step (Value.rangeLength start stop step)

namespace Value

/-- A value as an integer. -/
def index (v : Value) : Except Fault Int :=
  match v.integer? with
  | some n => .ok n
  | Option.none => .error (.notInteger v.typeName)

/-- A value as a text. -/
def textOr (fault : String → Fault) : Value → Except Fault (List Char)
  | .str s => .ok s.toList
  | v => .error (fault v.typeName)

/-- What is said to be given where a text is required. -/
def givenName : Value → String
  | .none => "None"
  | v => v.typeName

/-- A value as the text that a parameter takes. -/
def textFor (fault : String → Fault) : Value → Except Fault (List Char)
  | .str s => .ok s.toList
  | v => .error (fault v.givenName)

/-- How many elements a value has. -/
def length : Value → Except Fault Nat
  | .str s => .ok s.length
  | .bytes b => .ok b.length
  | .list items | .tuple items | .set items => .ok items.length
  | .dict entries => .ok entries.length
  | .range start stop step =>
    let n := rangeLength start stop step
    if indexLimit < n then .error .lengthTooLarge else .ok n
  | v => .error (.noLength v.typeName)

/-- Refuses more numbers of a range than can be kept at once. -/
def checkRoom (v : Value) : Except Fault Unit :=
  match v with
  | .range .. => do
    if sizeLimit < (← v.length) then throw .outOfMemory
  | _ => .ok ()

/-- The elements of a value in which they are at hand. -/
def elements? : Value → Option (List Value)
  | .str s => some (s.toList.map fun c => .str (String.singleton c))
  | .bytes b => some (b.map fun n => .int n.toNat)
  | .list items | .tuple items | .set items => some items
  | .dict entries => some (entries.map (·.1))
  | v => v.items?

/-- A bound of a slice: an integer or nothing. -/
def bound? : Value → Except Fault (Option Int)
  | .none => .ok Option.none
  | v =>
    match v.integer? with
    | some n => .ok (some n)
    | Option.none => .error .sliceIndices

/-- The step and the bounds of a slice. -/
def sliceParts (lower upper step : Value) : Except Fault (Option Int × Option Int × Int) := do
  let step := (← step.bound?).getD 1
  if step = 0 then throw .zeroStep
  let lower ← lower.bound?
  return (lower, ← upper.bound?, step)

/-- A slice of a sequence. -/
def sliceOf (v lower upper step : Value) : Except Fault Value := do
  match v with
  | .str s =>
    let (lo, hi, k) ← sliceParts lower upper step
    return ofChars (sliceList lo hi k s.toList)
  | .bytes b =>
    let (lo, hi, k) ← sliceParts lower upper step
    return .bytes (sliceList lo hi k b)
  | .list items =>
    let (lo, hi, k) ← sliceParts lower upper step
    return .list (sliceList lo hi k items)
  | .tuple items =>
    let (lo, hi, k) ← sliceParts lower upper step
    return .tuple (sliceList lo hi k items)
  | .range start stop inner =>
    let (lo, hi, k) ← sliceParts lower upper step
    let (first, last) := sliceBounds (rangeLength start stop inner) lo hi k
    return .range (start + first * inner) (start + last * inner) (inner * k)
  | .dict _ => throw (.unhashable "slice")
  | v => throw (.notSubscriptable v.typeName)

/-- The item of a list at an index, counted from the end if it is negative. -/
def itemAt (container : String) (items : List α) (i : Int) : Except Fault α :=
  if i < -indexLimit - 1 ∨ indexLimit < i then .error (.subscriptTooLarge "int")
  else
    let j := if i < 0 then i + items.length else i
    if j < 0 then .error (.indexRange container)
    else
      match items[j.toNat]? with
      | some v => .ok v
      | Option.none => .error (.indexRange container)

/-- The number of a range at an index. -/
def rangeAt (start stop step i : Int) : Except Fault Value :=
  let n : Int := rangeLength start stop step
  let j := if i < 0 then i + n else i
  if 0 ≤ j ∧ j < n then .ok (.int (start + j * step)) else .error (.indexRange "range")

/-- The value of a key. -/
def entryAt (entries : List (Value × Value)) (key : Value) : Except Fault Value :=
  match key.unhashable? with
  | some t => .error (.unhashable t)
  | Option.none =>
    match find? key entries with
    | some v => .ok v
    | Option.none => do throw (.missingKey (← key.written))

/-- What stands at an index or a key of a value. -/
def subscript (v index : Value) : Except Fault Value :=
  let at? (get : Int → Except Fault Value) : Except Fault Value :=
    match index.integer? with
    | some i => get i
    | Option.none => .error (.indices v.typeName index.typeName)
  match v, index with
  | .dict entries, key => entryAt entries key
  | v, .slice lower upper step => sliceOf v lower upper step
  | .str s, _ => at? fun i => (fun c => .str (String.singleton c)) <$> itemAt "str" s.toList i
  | .bytes b, _ => at? fun i => (fun n => .int n.toNat) <$> itemAt "bytes" b i
  | .list items, _ => at? (itemAt "list" items)
  | .tuple items, _ => at? (itemAt "tuple" items)
  | .range start stop step, _ => at? (rangeAt start stop step)
  | .type name, _ => .error (.typeNotSubscriptable name)
  | v, _ => .error (.notSubscriptable v.typeName)

/-- Whether a number is one of a range. -/
def inRange (start stop step : Int) (v : Value) : Bool :=
  let among (n : Int) : Bool :=
    (if 0 < step then decide (start ≤ n ∧ n < stop) else decide (stop < n ∧ n ≤ start)) &&
      (n - start) % step == 0
  match v.number? with
  | some (.int n) => among n
  | some (.float x) =>
    match x.toRat? with
    | some q => q.den == 1 && among q.num
    | Option.none => false
  | Option.none => false

/-- Whether a value is a key of entries, or an element of a set. A set is looked for as well. -/
def isKeyAmong (v : Value) (keys : List Value) : Except Fault Bool :=
  match v with
  | .set _ => .ok (keys.any (equal v ·))
  | v =>
    match v.unhashable? with
    | some t => .error (.unhashable t)
    | Option.none => .ok (keys.any (equal v ·))

/-- Whether a container in which elements are at hand holds a value. -/
def contains? (container v : Value) : Option (Except Fault Bool) :=
  match container with
  | .str s =>
    match v with
    | .str t => some (.ok (Text.contains t.toList s.toList))
    | v => some (.error (.notText v.typeName))
  | .bytes b =>
    let has (pat : List UInt8) := Text.contains pat b
    match v with
    | .bytes c => some (.ok (has c))
    | v =>
      match v.integer? with
      | some n =>
        if 0 ≤ n ∧ n < 256 then some (.ok (has [UInt8.ofNat n.toNat]))
        else some (.error .byteRange)
      | Option.none => some (.error (.notBytes v.typeName))
  | .list items | .tuple items => some (.ok (items.any (equal · v)))
  | .set items =>
    match v with
    | .set _ => some (.ok (items.any (equal v ·)))
    | v => some (isKeyAmong v items)
  | .dict entries =>
    match v.unhashable? with
    | some t => some (.error (.unhashable t))
    | Option.none => some (.ok ((find? v entries).isSome))
  | .range start stop step => some (.ok (inRange start stop step v))
  | .iterator .. => Option.none
  | v => some (.error (.notContainer v.typeName))

end Value

end Curly
