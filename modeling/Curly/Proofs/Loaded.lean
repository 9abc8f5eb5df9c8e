import Curly.Loaded
import Curly.Proofs.Value.Key
import Mathlib.Data.List.Nodup

/-!
Marks of loaded data. Moving the marks of data changes no value, and a change where a mark is
changes nothing where it is not. What is set under a key brings its marks with it and takes those
away that were there.
-/

namespace Curly.Loaded

/-! ## Values -/

mutual

theorem value_moveMark (n : Nat) : (d : Loaded) → (d.remake (moveMark n)).value = d.value
  | .plain v => rfl
  | .list items => by rw [remake, value, value, valuesOf_moveMark]
  | .tuple items => by rw [remake, value, value, valuesOf_moveMark]
  | .dict mark entries => by rw [remake, moveMark, value, value, entryValues_moveMark]

theorem valuesOf_moveMark (n : Nat) :
    (ds : List Loaded) → valuesOf (remakeAll (moveMark n) ds) = valuesOf ds
  | [] => rfl
  | d :: ds => by rw [remakeAll, valuesOf, valuesOf, value_moveMark, valuesOf_moveMark]

theorem entryValues_moveMark (n : Nat) : (es : List (Value × Loaded)) →
    entryValues (remakeEntries (moveMark n) es) = entryValues es
  | [] => rfl
  | (k, d) :: es => by
      rw [remakeEntries, entryValues, entryValues, value_moveMark, entryValues_moveMark]

end

theorem entryValues_plainEntries (entries : List (Value × Value)) :
    entryValues (plainEntries entries) = entries := by
  induction entries with
  | nil => rfl
  | cons entry entries ih => exact congrArg (entry :: ·) ih

theorem find?_entryValues (key : Value) (entries : List (Value × Loaded)) :
    Value.find? key (entryValues entries) = (Value.find? key entries).map value := by
  induction entries with
  | nil => rfl
  | cons entry entries ih =>
      obtain ⟨k, d⟩ := entry
      rw [entryValues, Value.find?, Value.find?, ih]
      split <;> rfl

theorem value_of_dict? {d : Loaded} {mark : Option Nat} {entries : List (Value × Loaded)}
    (h : d.dict? = some (mark, entries)) : d.value = .dict (entryValues entries) := by
  cases d with
  | plain v =>
      cases v with
      | dict es =>
          cases h
          rw [entryValues_plainEntries]
          rfl
      | _ => cases h
  | dict =>
      cases h
      rfl
  | list | tuple => cases h

/-! ## Marks -/

mutual

theorem marks_moveMark (n : Nat) :
    (d : Loaded) → (d.remake (moveMark n)).marks = d.marks.map (n + ·)
  | .plain v => rfl
  | .list items => by rw [remake, marks, marks, marksOf_moveMark]
  | .tuple items => by rw [remake, marks, marks, marksOf_moveMark]
  | .dict mark entries => by
      rw [remake, moveMark, marks, marks, entryMarks_moveMark, List.map_append]
      cases mark <;> rfl

theorem marksOf_moveMark (n : Nat) :
    (ds : List Loaded) → marksOf (remakeAll (moveMark n) ds) = (marksOf ds).map (n + ·)
  | [] => rfl
  | d :: ds => by
      rw [remakeAll, marksOf, marksOf, marks_moveMark, marksOf_moveMark, List.map_append]

theorem entryMarks_moveMark (n : Nat) : (es : List (Value × Loaded)) →
    entryMarks (remakeEntries (moveMark n) es) = (entryMarks es).map (n + ·)
  | [] => rfl
  | (k, d) :: es => by
      rw [remakeEntries, entryMarks, entryMarks, marks_moveMark, entryMarks_moveMark,
        List.map_append]

end

theorem entryMarks_plainEntries (entries : List (Value × Value)) :
    entryMarks (plainEntries entries) = [] := by
  induction entries with
  | nil => rfl
  | cons entry entries ih => exact ih

theorem lt_freshMark {entries : List (Value × Loaded)} {m : Nat} (h : m ∈ entryMarks entries) :
    m < freshMark entries := by
  rw [freshMark]
  generalize entryMarks entries = l at h
  induction l with
  | nil => cases h
  | cons k l ih =>
      rw [List.foldr_cons]
      obtain rfl | h := List.mem_cons.1 h
      · exact Nat.le_max_left _ _
      · exact Nat.lt_of_lt_of_le (ih h) (Nat.le_max_right _ _)

variable {f : List (Value × Loaded) → List (Value × Loaded)} {m : Nat}

mutual

/-- A change where a mark is leaves data as they are that have no such mark. -/
theorem remake_changeAt : (d : Loaded) → m ∉ d.marks → d.remake (changeAt m f) = d
  | .plain v, _ => rfl
  | .list items, h => by rw [remake, remakeAll_changeAt items h]
  | .tuple items, h => by rw [remake, remakeAll_changeAt items h]
  | .dict mark entries, h => by
      rw [marks, List.mem_append, not_or] at h
      have hmark : mark ≠ some m := by
        rintro rfl
        exact h.1 (List.mem_singleton_self m)
      rw [remake, changeAt, if_neg hmark, remakeEntries_changeAt entries h.2]

theorem remakeAll_changeAt :
    (ds : List Loaded) → m ∉ marksOf ds → remakeAll (changeAt m f) ds = ds
  | [], _ => rfl
  | d :: ds, h => by
      rw [marksOf, List.mem_append, not_or] at h
      rw [remakeAll, remake_changeAt d h.1, remakeAll_changeAt ds h.2]

theorem remakeEntries_changeAt : (es : List (Value × Loaded)) → m ∉ entryMarks es →
    remakeEntries (changeAt m f) es = es
  | [], _ => rfl
  | (k, d) :: es, h => by
      rw [entryMarks, List.mem_append, not_or] at h
      rw [remakeEntries, remake_changeAt d h.1, remakeEntries_changeAt es h.2]

end

/-- The marks of what stands under a key. -/
def heldMarks (key : Value) (entries : List (Value × Loaded)) : List Nat :=
  ((Value.find? key entries).map marks).getD []

/-- What is set under a key takes the place of what was there. -/
theorem count_insert (key : Value) (d : Loaded) (entries : List (Value × Loaded)) (m : Nat) :
    (entryMarks (Value.insert key d entries)).count m + (heldMarks key entries).count m =
      d.marks.count m + (entryMarks entries).count m := by
  induction entries with
  | nil => simp [Value.insert, entryMarks, heldMarks, Value.find?]
  | cons entry rest ih =>
      obtain ⟨k, e⟩ := entry
      rw [Value.insert, heldMarks, Value.find?]
      rw [heldMarks] at ih
      split
      · simp only [entryMarks, List.count_append, Option.map_some, Option.getD_some]
        omega
      · simp only [entryMarks, List.count_append]
        omega

theorem count_heldMarks_le (key : Value) (entries : List (Value × Loaded)) (m : Nat) :
    (heldMarks key entries).count m ≤ (entryMarks entries).count m := by
  induction entries with
  | nil => simp [heldMarks, Value.find?]
  | cons entry rest ih =>
      obtain ⟨k, e⟩ := entry
      rw [heldMarks] at ih ⊢
      rw [Value.find?, entryMarks, List.count_append]
      split
      · simp
      · omega

/-- A change where a mark is, when the mark is under one key only, is made there. -/
theorem remakeEntries_eq_insert {key : Value} {d : Loaded} {entries : List (Value × Loaded)}
    (hd : Value.find? key entries = some d)
    (h : (entryMarks entries).count m = d.marks.count m) :
    remakeEntries (changeAt m f) entries =
      Value.insert key (d.remake (changeAt m f)) entries := by
  induction entries with
  | nil => cases hd
  | cons entry rest ih =>
      obtain ⟨k, e⟩ := entry
      rw [Value.find?] at hd
      rw [entryMarks, List.count_append] at h
      rw [remakeEntries, Value.insert]
      split at hd
      case isTrue hk =>
        cases hd
        -- the document under the key has all there is of the mark, so the rest has none
        have hrest : m ∉ entryMarks rest := by
          rw [← List.count_eq_zero]
          omega
        rw [if_pos hk, remakeEntries_changeAt rest hrest]
      case isFalse hk =>
        have hle := count_heldMarks_le key rest m
        rw [heldMarks, hd] at hle
        have hle : d.marks.count m ≤ (entryMarks rest).count m := hle
        -- the rest has all there is of the mark, so this entry has none and stays as it is
        have he : m ∉ e.marks := by
          rw [← List.count_eq_zero]
          omega
        rw [if_neg hk, remake_changeAt e he, ih hd (by omega)]

end Curly.Loaded
