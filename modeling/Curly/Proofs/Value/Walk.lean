import Curly.Lookup
import Curly.Proofs.Number.Reading
import Curly.Proofs.Text.Word

/-!
Walks: a dotted path is followed one key at a time, and what is not there is nothing. A walk fails
only at an array, where a key in digits is read as a position: the digits may be too many, and a
range may be too long for its length to be told.
-/

namespace Curly

open Curly.Text Curly.Text.Unicode

/-- White space is no digit. -/
theorem Text.isSpace_of_isDecimal {c : Char} (h : isDecimal c = true) : isSpace c = false := by
  by_contra hspace
  have hword := isWord_of_isSpace (by simpa using hspace)
  simp [isWord, isAlphanumeric, isNumeric, isDigit, h] at hword

namespace Value

/-! ## Positions -/

/-- Whether a key is written in decimal digits, of whatever script. -/
def isPosition (key : String) : Bool := !key.toList.isEmpty && key.toList.all isDecimal

/-- The position that a key writes. -/
def position? (key : String) : Option Nat :=
  if isPosition key then some (Reading.natOf (key.toList.map Reading.asciiDigit)) else Option.none

theorem position?_eq_none_iff {key : String} :
    position? key = Option.none ↔ ¬isPosition key = true := by
  rw [position?]
  split <;> simp [*]

/-- Digits are read as the position that they write, if they are not too many. -/
theorem int_of_position? {key : String} {i : Nat} (h : position? key = some i) :
    Reading.int key.toList = if Reading.digitLimit < key.length
      then .tooLong key.length else .ok i := by
  have hkey : isPosition key = true := by
    by_contra hnot
    rw [position?_eq_none_iff.2 hnot] at h
    cases h
  rw [position?, if_pos hkey] at h
  cases h
  rw [isPosition, Bool.and_eq_true, Bool.not_eq_true', List.isEmpty_eq_false_iff,
    List.all_eq_true] at hkey
  obtain ⟨hne, hdigits⟩ := hkey
  rw [← String.length_toList]
  generalize key.toList = s at hne hdigits ⊢
  -- decimal digits of any script are neither white space nor signs, so all of the key is read
  have hstrip : strip s = s := strip_eq_self_iff.2
    ⟨fun c hc => isSpace_of_isDecimal (hdigits c (List.mem_of_mem_head? hc)),
      fun c hc => isSpace_of_isDecimal (hdigits c (List.mem_of_mem_getLast? hc))⟩
  have hsigns : isDecimal '-' = false ∧ isDecimal '+' = false := by decide
  have hsign : Reading.sign s = (false, s) := by
    cases s with
    | nil => rfl
    | cons c cs =>
        have hc := hdigits c List.mem_cons_self
        refine Reading.sign_of_ne (fun heq => ?_) (fun heq => ?_) cs
        · rw [heq, hsigns.1] at hc
          cases hc
        · rw [heq, hsigns.2] at hc
          cases hc
  have hint := Reading.int_of_digits hstrip (by rwa [hsign]) (by rwa [hsign])
  rw [hsign] at hint
  obtain ⟨hlong, hint⟩ | ⟨hshort, hint⟩ := hint
  · rw [hint, if_pos hlong]
  · rw [hint, if_neg (Nat.not_lt.2 hshort)]
    rfl

/-! ## Steps -/

/-- What stands under a key of a value: in a dictionary the value of the entry, in an array the item
at the position, in any other value that may hold values the attribute. -/
def held? (v : Value) (key : String) : Option Value :=
  match v, v.items? with
  | .dict entries, _ => field? key entries
  | _, some items => (position? key).bind fun i => items[i]?
  | v, Option.none => if v.isComposite then (v.attr key).toOption else Option.none

/-- Whether a value is a range so long that its length cannot be told. -/
def isOverlong : Value → Bool
  | .range start stop step => indexLimit < rangeLength start stop step
  | _ => false

/-- The failure that a position in an array leads to: it is written with too many digits, or else
the array is too long. -/
def stepFault? (v : Value) (key : String) : Option Fault :=
  if !v.isArray || !isPosition key then Option.none
  else if Reading.digitLimit < key.length then some (.numberTooLong (some key.length))
  else if v.isOverlong then some .lengthTooLarge
  else Option.none

/-- The length of an array is told unless it is too long. -/
theorem length_of_isArray {v : Value} (hv : v.isArray = true) :
    ∃ items, v.items? = some items ∧
      v.length = if v.isOverlong then .error .lengthTooLarge else .ok items.length := by
  cases v with
  | list items => exact ⟨items, rfl, rfl⟩
  | tuple items => exact ⟨items, rfl, rfl⟩
  | range start stop step =>
      refine ⟨_, rfl, ?_⟩
      simp only [length, isOverlong, rangeItems, List.length_map, List.length_range,
        decide_eq_true_eq]
  | _ => cases hv

/-- The items of an array are got at by their positions. -/
theorem itemOf_of_items? {v : Value} {items : List Value} (hv : v.items? = some items) (i : Nat) :
    v.itemOf i = (items[i]?).getD .none := by
  cases v with
  | range start stop step =>
      cases hv
      rw [itemOf, rangeAt, if_neg (Int.not_lt.2 (Int.natCast_nonneg i)), rangeItems,
        List.getElem?_map]
      by_cases hi : i < rangeLength start stop step
      · rw [if_pos ⟨Int.natCast_nonneg i, Int.ofNat_lt.2 hi⟩, List.getElem?_range hi]
        rfl
      · rw [if_neg fun h => hi (Int.ofNat_lt.1 h.2), List.getElem?_eq_none (by simpa using hi)]
        rfl
  | list | tuple =>
      cases hv
      rfl
  | _ => cases hv

theorem held?_of_items? {v : Value} {items : List Value} (hv : v.items? = some items)
    (key : String) : v.held? key = (position? key).bind fun i => items[i]? := by
  cases v with
  | list | tuple | range =>
      cases hv
      rfl
  | _ => cases hv

/-- A step in an array: the key is read as a position. -/
theorem child_of_isArray {v : Value} (hv : v.isArray = true) (key : String) :
    v.child key = match v.stepFault? key with
      | some f => .error f
      | Option.none => .ok ((v.held? key).getD .none) := by
  obtain ⟨items, hitems, hlength⟩ := length_of_isArray hv
  have hdict : ∀ entries, v ≠ .dict entries := by
    rintro entries rfl
    cases hv
  rw [child.eq_2 _ _ hdict, if_pos hv, held?_of_items? hitems]
  change (if isPosition key then _ else _) = _
  cases hposition : position? key with
  | none =>
      have hkey := position?_eq_none_iff.1 hposition
      -- the two faults in the order in which the step runs into them: reading the key, then the
      -- length
      have hstep : v.stepFault? key = Option.none := by simp [stepFault?, hkey]
      rw [if_neg hkey, hstep]
      rfl
  | some i =>
      have hkey : isPosition key = true := by
        by_contra hnot
        rw [position?_eq_none_iff.2 hnot] at hposition
        cases hposition
      have hstep : v.stepFault? key =
          if Reading.digitLimit < key.length then some (.numberTooLong (some key.length))
          else if v.isOverlong then some .lengthTooLarge else Option.none := by
        simp [stepFault?, hv, hkey]
      rw [if_pos hkey, int_of_position? hposition, hstep]
      by_cases hlong : Reading.digitLimit < key.length
      · rw [if_pos hlong, if_pos hlong]
      · rw [if_neg hlong, if_neg hlong, hlength]
        cases v.isOverlong with
        | true => rfl
        | false =>
            by_cases hi : i < items.length
            · exact (if_pos (Int.ofNat_lt.2 hi)).trans
                (congrArg Except.ok (itemOf_of_items? hitems i))
            · rw [Option.bind_some, List.getElem?_eq_none (Nat.le_of_not_lt hi)]
              exact if_neg fun h => hi (Int.ofNat_lt.1 h)

/-- A step gives what stands under the key, or nothing, unless it fails. -/
theorem child_eq {v : Value} (hv : v.isComposite = true) (key : String) :
    v.child key = match v.stepFault? key with
      | some f => .error f
      | Option.none => .ok ((v.held? key).getD .none) := by
  cases v with
  | list | tuple | range => exact child_of_isArray rfl key
  | none | bool | int | float | imaginary | str | bytes => cases hv
  | _ => rfl

/-! ## Walks -/

/-- What keys lead to, followed one by one. -/
def reached? (v : Value) (keys : List String) : Option Value := keys.foldlM held? v

/-- The failure that a walk ends in: that of the first step which fails. -/
def walkFault? (v : Value) : List String → Option Fault
  | [] => Option.none
  | key :: keys => (v.stepFault? key).or ((v.held? key).bind (walkFault? · keys))

theorem held?_of_not_isComposite {v : Value} (hv : v.isComposite = false) (key : String) :
    v.held? key = Option.none := by
  cases v with
  | none | bool | int | float | imaginary | str | bytes => rfl
  | _ => cases hv

theorem stepFault?_of_not_isComposite {v : Value} (hv : v.isComposite = false) (key : String) :
    v.stepFault? key = Option.none := by
  cases v with
  | none | bool | int | float | imaginary | str | bytes => rfl
  | _ => cases hv

theorem follow_none (keys : List String) : follow .none keys = .ok .none := by
  cases keys <;> rfl

/-- Keys are followed to what they lead to, or to nothing, unless the walk fails. -/
theorem follow_eq (v : Value) (keys : List String) :
    v.follow keys = match v.walkFault? keys with
      | some f => .error f
      | Option.none => .ok ((v.reached? keys).getD .none) := by
  induction keys generalizing v with
  | nil => rfl
  | cons key keys ih =>
      rw [follow, walkFault?, reached?, List.foldlM_cons]
      cases hv : v.isComposite with
      | false => rw [held?_of_not_isComposite hv, stepFault?_of_not_isComposite hv]; rfl
      | true =>
          rw [if_pos rfl, child_eq hv]
          cases v.stepFault? key with
          | some f => rfl
          | none =>
              cases v.held? key with
              -- Behind what is missing everything is missing.
              | none => exact follow_none keys
              | some w => exact ih w

/-- The keys that a path is made of. The empty path has none. -/
def walkKeys (path : String) : List String := if path.isEmpty then [] else pathKeys path

end Value

end Curly
