import Curly.Lookup
import Curly.Proofs.Except
import Curly.Proofs.Number.Rounding
import Curly.Proofs.Value.Written

/-!
Data: the values that a template is given, of the kinds that hold data only, nested to any depth.
Their integers are small enough to be written, so all of them have a text; and what stands under a
key of data, or among their items, is data again.
-/

namespace Curly

/-- A number that the format holds. -/
def Double.IsInRange : Double → Prop
  | .finite _ m e => m < 2 ^ 53 ∧ e ≤ (971 : Nat)
  | .nan | .infinite _ => True

/-- Values that are data. -/
inductive Value.IsData : Value → Prop
  | none : IsData .none
  | bool (b : Bool) : IsData (.bool b)
  | int {n : Int} (hn : IsWritable n) : IsData (.int n)
  | float {x : Double} (hx : x.IsInRange) : IsData (.float x)
  | str (s : String) : IsData (.str s)
  | bytes (b : List UInt8) : IsData (.bytes b)
  | list {items : List Value} (h : ∀ v ∈ items, IsData v) : IsData (.list items)
  | tuple {items : List Value} (h : ∀ v ∈ items, IsData v) : IsData (.tuple items)
  | range {start stop step : Int} (hstart : IsWritable start) (hstop : IsWritable stop)
      (hstep : IsWritable step) : IsData (.range start stop step)
  | dict {entries : List (Value × Value)} (hkeys : ∀ e ∈ entries, IsData e.1)
      (hvalues : ∀ e ∈ entries, IsData e.2) : IsData (.dict entries)
  | object {fields : List (String × Value)} (h : ∀ f ∈ fields, IsData f.2) :
      IsData (.object fields)

namespace Value

/-! ## Texts of data -/

theorem integerText_of_isWritable {n : Int} (hn : IsWritable n) :
    integerText n = .ok (toString n) :=
  if_pos hn

namespace IsData

variable {v : Value}

/-- The integers in data can be written. -/
theorem isWritable_of_mem_integers (hv : v.IsData) : ∀ n ∈ v.integers, IsWritable n := by
  induction hv with
  | int hn => simpa [integers] using hn
  | list _ ih | tuple _ ih =>
      intro n hn
      rw [integers, mem_integersAll] at hn
      obtain ⟨w, hw, hn⟩ := hn
      exact ih w hw n hn
  | @range start stop step hstart hstop hstep =>
      rw [integers]
      -- a range shows its bounds, and its step if it is another one than one
      refine List.forall_mem_cons.2 ⟨hstart, List.forall_mem_cons.2 ⟨hstop, ?_⟩⟩
      split
      · exact nofun
      · exact List.forall_mem_singleton.2 hstep
  | dict _ _ ihkeys ihvalues =>
      intro n hn
      rw [integers, mem_integersOfEntries] at hn
      obtain ⟨e, he, hn | hn⟩ := hn
      · exact ihkeys e he n hn
      · exact ihvalues e he n hn
  | object _ ih =>
      intro n hn
      rw [integers, mem_integersOfFields] at hn
      obtain ⟨f, hf, hn⟩ := hn
      exact ih f hf n hn
  | none | bool | float | str | bytes => exact nofun

/-- Data can be written. -/
theorem exists_written (hv : v.IsData) : ∃ s, v.written = .ok s :=
  (composes_shows.written v).2 hv.isWritable_of_mem_integers

theorem isWritable_of_natAbs_le {n : Int} {k : Nat} (hn : n.natAbs ≤ 2 ^ k)
    (hk : k < Reading.digitLimit) : IsWritable n := by
  rw [IsWritable]
  generalize Reading.digitLimit = limit at hk ⊢
  calc
    n.natAbs ≤ 2 ^ k := hn
    _ ≤ 10 ^ k := Nat.pow_le_pow_left (by decide) k
    _ < 10 ^ limit := Nat.pow_lt_pow_right (by decide) hk

/-- A whole number that the format holds can be written. -/
theorem isWritable_num {x : Double} (hx : x.IsInRange) {q : Rat} (hq : x.toRat? = some q)
    (hden : q.den = 1) : IsWritable q.num := by
  cases x with
  | nan => cases hq
  | infinite => cases hq
  | finite negative m e =>
      exact isWritable_of_natAbs_le (Double.natAbs_num_le (Nat.le_of_lt hx.1) hx.2 hq hden)
        (by decide)

/-- Data have a text in the output. -/
theorem exists_stringify (hv : v.IsData) : ∃ s, v.stringify = .ok s := by
  cases hv with
  | none => exact ⟨_, rfl⟩
  | @float x hx =>
      rw [stringify]
      cases hq : x.toRat? with
      | none => exact ⟨_, rfl⟩
      | some q =>
          -- whole numbers are written as integers are, with all their digits
          by_cases hden : q.den = 1
          · exact ⟨_, (if_pos hden).trans (integerText_of_isWritable (isWritable_num hx hq hden))⟩
          · exact ⟨_, if_neg hden⟩
  | str => exact ⟨_, rfl⟩
  | bool => exact (IsData.bool _).exists_written
  | int hn => exact (IsData.int hn).exists_written
  | bytes => exact (IsData.bytes _).exists_written
  | list h => exact (IsData.list h).exists_written
  | tuple h => exact (IsData.tuple h).exists_written
  | range hstart hstop hstep => exact (IsData.range hstart hstop hstep).exists_written
  | dict hkeys hvalues => exact (IsData.dict hkeys hvalues).exists_written
  | object h => exact (IsData.object h).exists_written

/-! ## What data hold -/

/-- The numbers of a range lie between its bounds. -/
theorem isWritable_of_mem_range {start stop step : Int} (hstart : IsWritable start)
    (hstop : IsWritable stop) {i : Nat} (hi : i < rangeLength start stop step) :
    IsWritable (start + i * step) := by
  -- the range goes up or down, and every number of it is between its bounds
  have hbetween : (start ≤ start + i * step ∧ start + i * step ≤ stop) ∨
      (stop ≤ start + i * step ∧ start + i * step ≤ start) := by
    rw [rangeLength] at hi
    split at hi
    · rename_i hstep
      have hlt : (i : Int) < (stop - start + step - 1) / step := by omega
      have hmul : ((i : Int) + 1) * step ≤ stop - start + step - 1 :=
        (Int.le_ediv_iff_mul_le hstep).1 hlt
      have hnonneg : 0 ≤ (i : Int) * step := Int.mul_nonneg (Int.natCast_nonneg i) hstep.le
      rw [Int.add_mul, Int.one_mul] at hmul
      exact .inl ⟨by omega, by omega⟩
    · rename_i hstep
      obtain rfl | hneg : step = 0 ∨ 0 < -step := by omega
      · simp at hi
      · have hlt : (i : Int) < (start - stop - step - 1) / -step := by omega
        have hmul : ((i : Int) + 1) * -step ≤ start - stop - step - 1 :=
          (Int.le_ediv_iff_mul_le hneg).1 hlt
        have hnonneg : 0 ≤ (i : Int) * -step := Int.mul_nonneg (Int.natCast_nonneg i) hneg.le
        rw [Int.add_mul, Int.one_mul, Int.mul_neg] at hmul
        rw [Int.mul_neg] at hnonneg
        exact .inr ⟨by omega, by omega⟩
  rw [IsWritable] at hstart hstop ⊢
  generalize Nat.pow 10 Reading.digitLimit = bound at hstart hstop ⊢
  omega

/-- The items of data are data. -/
theorem of_mem_items (hv : v.IsData) {vs : List Value} (hvs : v.items? = some vs) :
    ∀ w ∈ vs, w.IsData := by
  cases hv with
  | list h =>
      cases hvs
      exact h
  | tuple h =>
      cases hvs
      exact h
  -- The items of a range lie between its ends, so they can be written.
  | @range start stop step hstart hstop hstep =>
      cases hvs
      intro w hw
      obtain ⟨i, hi, rfl⟩ := List.mem_map.1 hw
      exact .int (isWritable_of_mem_range hstart hstop (List.mem_range.1 hi))
  | _ => cases hvs

/-- What stands under a key among entries is one of their values. -/
theorem mem_of_find? {key w : Value} {entries : List (Value × Value)}
    (h : find? key entries = some w) : ∃ e ∈ entries, e.2 = w := by
  induction entries with
  | nil => cases h
  | cons e entries ih =>
      obtain ⟨k, v⟩ := e
      rw [find?] at h
      split at h
      · cases h
        exact ⟨_, List.mem_cons_self, rfl⟩
      · obtain ⟨e, he, hw⟩ := ih h
        exact ⟨e, List.mem_cons_of_mem _ he, hw⟩

theorem getD {w : Option Value} (hw : ∀ v, w = some v → v.IsData) : (w.getD .none).IsData := by
  cases w with
  | none => exact .none
  | some v => exact hw v rfl

/-- What stands at a position of an array of data is data. -/
theorem itemOf (hv : v.IsData) (i : Nat) : (v.itemOf i).IsData := by
  have hitems : ((v.items?.getD [])[i]?.getD .none).IsData := by
    refine getD fun w hw => ?_
    cases hvs : v.items? with
    | none =>
        rw [hvs] at hw
        cases hw
    | some vs =>
        rw [hvs] at hw
        exact hv.of_mem_items hvs w (List.mem_of_getElem? hw)
  cases hv with
  | @range start stop step hstart hstop hstep =>
      -- a range has its own way to get at an item, without a list of all
      refine getD fun w hw => ?_
      rw [rangeAt] at hw
      rw [if_neg (Int.not_lt.2 (Int.natCast_nonneg i))] at hw
      split at hw
      · rename_i hi
        cases hw
        exact .int (isWritable_of_mem_range hstart hstop (Int.ofNat_lt.1 hi.2))
      · cases hw
  | _ => exact hitems

/-- What stands under a key of an array is one of its items or nothing. -/
theorem child_of_isArray (harray : v.isArray = true) {key : String} {w : Value}
    (h : v.child key = .ok w) : w = .none ∨ ∃ i, w = v.itemOf i := by
  -- the key is the length, or a position among the items, or nothing
  unfold child at h
  split at h
  · cases harray
  · rw [if_pos harray] at h
    dsimp only at h
    split at h
    · split at h
      · obtain ⟨n, -, h⟩ := Except.bind_eq_ok_iff.1 h
        split at h
        · cases h
          exact .inr ⟨_, rfl⟩
        · cases h
          exact .inl rfl
      · cases h
      · cases h
        exact .inl rfl
    · cases h
      exact .inl rfl

/-- What stands under a key of data is data. -/
theorem of_child (hv : v.IsData) (hcomposite : v.isComposite = true) {key : String} {w : Value}
    (h : v.child key = .ok w) : w.IsData := by
  -- lists, tuples and ranges are asked in the same way, for one of their items
  have harray (ha : v.isArray = true) : w.IsData := by
    obtain rfl | ⟨i, rfl⟩ := child_of_isArray ha h
    · exact .none
    · exact hv.itemOf i
  cases hv with
  | dict hkeys hvalues =>
      cases h
      refine getD fun w hw => ?_
      obtain ⟨e, he, rfl⟩ := mem_of_find? hw
      exact hvalues e he
  | @object fields hfields =>
      cases h
      refine getD fun w hw => ?_
      unfold attr at hw
      cases hpart : part? (.object fields) key with
      | none =>
          rw [hpart] at hw
          cases hw
      | some w' =>
          rw [hpart] at hw
          cases hw
          obtain ⟨before, after, hmem, -⟩ := List.lookup_eq_some_iff.1 hpart
          exact hfields (key, w) (hmem ▸ List.mem_append_right before List.mem_cons_self)
  | list | tuple | range => exact harray rfl
  | none | bool | int | float | str | bytes => cases hcomposite

theorem of_follow (hv : v.IsData) {keys : List String} {w : Value} (h : v.follow keys = .ok w) :
    w.IsData := by
  induction keys generalizing v with
  | nil =>
      cases h
      exact hv
  | cons key keys ih =>
      rw [follow] at h
      split at h
      · rename_i hcomposite
        obtain ⟨u, hu, h⟩ := Except.bind_eq_ok_iff.1 h
        exact ih (hv.of_child hcomposite hu) h
      · cases h
        exact .none

/-- What a path leads to from data is data. -/
theorem of_lookup (hv : v.IsData) {path : String} {w : Value} (h : v.lookup path = .ok w) :
    w.IsData := by
  rw [lookup] at h
  split at h
  · cases h
    exact .none
  · split at h
    · cases h
      exact hv
    · exact hv.of_follow h

end IsData

end Value

end Curly
