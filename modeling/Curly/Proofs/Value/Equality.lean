import Curly.Proofs.Value.Order
import Mathlib.Logic.Relation

/-!
Equality of plain data by positions. Values are equal if at every position they are alike, where
truth values count as numbers. Strict equality looks at the top alone to tell them apart.
-/

namespace Curly.Value

/-- The pairs that a comparison of two values goes on with: the items in turn, or the keys that are
equal and what stands under them. -/
def faces : Value → Value → List (Value × Value)
  | .list as, .list bs => as.zip bs
  | .tuple as, .tuple bs => as.zip bs
  | .dict as, .dict bs => as.flatMap fun e =>
    match bs.find? (fun f => equal e.1 f.1) with
    | some f => [(e.1, f.1), (e.2, f.2)]
    | Option.none => []
  | _, _ => []

/-- Two values at corresponding positions of two others, which may be these themselves. -/
def Meets (a b x y : Value) : Prop :=
  Relation.ReflTransGen (fun p q => q ∈ faces p.1 p.2) (a, b) (x, y)

/-- Whether two values are equal but for what stands inside of them. -/
def alike : Value → Value → Bool
  | .none, .none => true
  | .str s, .str t => s == t
  | .bytes s, .bytes t => s == t
  | .list as, .list bs => as.length == bs.length
  | .tuple as, .tuple bs => as.length == bs.length
  | .dict as, .dict bs => as.length == bs.length && as.all fun e => bs.any fun f => equal e.1 f.1
  | a, b => (a.number?.bind fun m => b.number?.bind m.compare?) == some .eq

/-- Whether one of two values is a truth value and the other a number. -/
def mixes : Value → Value → Bool
  | .bool _, .int _ | .bool _, .float _ | .int _, .bool _ | .float _, .bool _ => true
  | _, _ => false

variable {a b : Value} {dicts : Bool} {as bs : List Value} {q : Value × Value}

/-- Strict equality is equality where no truth value stands against a number. -/
theorem strictEqual_iff : a.strictEqual b = true ↔ equal a b = true ∧ mixes a b = false := by
  rw [strictEqual.eq_def]
  split
  case h_1 p q => cases p <;> cases q <;> simp [mixes, equal, number?, Number.compare?]
  case h_2 p _ hb =>
    -- a truth value equals truth values and numbers only
    cases b with
    | bool q => exact absurd rfl (hb q)
    | _ => simp [mixes, equal, number?]
  case h_3 q ha =>
    cases a with
    | bool p => exact absurd rfl (ha p)
    | _ => simp [mixes, equal, number?]
  case h_4 ha hb =>
    have hmixes : mixes a b = false := by
      rw [mixes.eq_def]
      split <;> simp_all
    rw [hmixes, and_iff_left rfl]

/-! ## One step -/

theorem equalAll_iff : equalAll as bs = true ↔
    as.length = bs.length ∧ ∀ q ∈ as.zip bs, equal q.1 q.2 = true := by
  induction as generalizing bs with
  | nil => cases bs <;> simp [equalAll]
  | cons a as ih =>
      cases bs with
      | nil => simp [equalAll]
      | cons b bs =>
          rw [equalAll, Bool.and_eq_true, ih, List.zip_cons_cons, List.forall_mem_cons]
          simp [and_left_comm]

theorem allEntries_iff {as bs : List (Value × Value)} : allEntries as bs = true ↔
    ∀ e ∈ as, ∃ f, bs.find? (fun f => equal e.1 f.1) = some f ∧ equal e.2 f.2 = true := by
  induction as with
  | nil => simp [allEntries]
  | cons e as ih =>
      obtain ⟨k, v⟩ := e
      rw [allEntries, Bool.and_eq_true, ih, List.forall_mem_cons]
      refine and_congr_left' ?_
      cases bs.find? (fun f => equal k f.1) <;> simp

theorem mem_faces_dict {as bs : List (Value × Value)} : q ∈ faces (.dict as) (.dict bs) ↔
    ∃ e ∈ as, ∃ f, bs.find? (fun f => equal e.1 f.1) = some f ∧
      (q = (e.1, f.1) ∨ q = (e.2, f.2)) := by
  rw [faces, List.mem_flatMap]
  refine exists_congr fun e => and_congr_right' ?_
  cases bs.find? (fun f => equal e.1 f.1) <;> simp

/-- What dictionaries go on with is equal if under every key there is something equal. -/
theorem forall_mem_faces_dict {as bs : List (Value × Value)} :
    ((as.all fun e => bs.any fun f => equal e.1 f.1) = true ∧
      ∀ q ∈ faces (.dict as) (.dict bs), equal q.1 q.2 = true) ↔ allEntries as bs = true := by
  rw [allEntries_iff, List.all_eq_true]
  constructor
  · rintro ⟨hkeys, hfaces⟩ e he
    obtain ⟨f, hf⟩ := Option.isSome_iff_exists.1
      (List.find?_isSome.2 (List.any_eq_true.1 (hkeys e he)))
    exact ⟨f, hf, hfaces (e.2, f.2) (mem_faces_dict.2 ⟨e, he, f, hf, .inr rfl⟩)⟩
  · intro h
    refine ⟨fun e he => ?_, fun q hq => ?_⟩
    · obtain ⟨f, hf, -⟩ := h e he
      exact List.any_eq_true.2 ⟨f, List.mem_of_find?_eq_some hf, by simpa using List.find?_some hf⟩
    · obtain ⟨e, he, f, hf, rfl | rfl⟩ := mem_faces_dict.1 hq
      · simpa using List.find?_some hf
      · obtain ⟨f', hf', hvalue⟩ := h e he
        cases hf.symm.trans hf'
        exact hvalue

/-- Plain data are equal if they are alike and what the comparison goes on with is equal. -/
theorem IsPlain.equal_iff_faces (ha : a.IsPlain dicts) : equal a b = true ↔
    alike a b = true ∧ ∀ q ∈ faces a b, equal q.1 q.2 = true := by
  -- values of different kinds are neither equal nor alike, but for numbers
  cases ha with
  | none => cases b <;> simp [equal, alike, faces, number?]
  | bool | int | float =>
      rw [equal_of_number? rfl]
      cases b <;> simp [alike, faces, number?]
  | str => cases b <;> simp [equal, alike, faces, number?]
  | bytes => cases b <;> simp [equal, alike, faces, number?]
  | list =>
      cases b with
      | list bs => simp [equal, alike, faces, equalAll_iff]
      | _ => simp [equal, alike, number?]
  | tuple =>
      cases b with
      | tuple bs => simp [equal, alike, faces, equalAll_iff]
      | _ => simp [equal, alike, number?]
  | dict =>
      cases b with
      | dict bs =>
          rw [equal, Bool.and_eq_true, ← forall_mem_faces_dict, alike, Bool.and_eq_true, and_assoc]
      | _ => simp [equal, alike, number?]

/-- What a comparison goes on with are items, or keys and what stands under them. -/
theorem mem_of_mem_faces (h : q ∈ faces a b) :
    (∃ items, (a = .list items ∨ a = .tuple items) ∧ q.1 ∈ items) ∨
      ∃ entries, a = .dict entries ∧ ∃ e ∈ entries, q.1 = e.1 ∨ q.1 = e.2 := by
  rw [faces.eq_def] at h
  split at h
  · exact .inl ⟨_, .inl rfl, (List.of_mem_zip h).1⟩
  · exact .inl ⟨_, .inr rfl, (List.of_mem_zip h).1⟩
  · obtain ⟨e, he, f, -, rfl | rfl⟩ := mem_faces_dict.1 h
    · exact .inr ⟨_, rfl, e, he, .inl rfl⟩
    · exact .inr ⟨_, rfl, e, he, .inr rfl⟩
  · cases h

theorem sizeOf_lt_of_mem_faces (h : q ∈ faces a b) : sizeOf q.1 < sizeOf a := by
  obtain ⟨items, ha, hq⟩ | ⟨entries, rfl, ⟨k, v⟩, he, hq⟩ := mem_of_mem_faces h
  · have hlt := List.sizeOf_lt_of_mem hq
    obtain rfl | rfl := ha
    · simp only [Value.list.sizeOf_spec]
      omega
    · simp only [Value.tuple.sizeOf_spec]
      omega
  · have hlt := List.sizeOf_lt_of_mem he
    simp only [Value.dict.sizeOf_spec, Prod.mk.sizeOf_spec] at hlt ⊢
    obtain hq | hq := hq
    · rw [hq]
      dsimp only
      omega
    · rw [hq]
      dsimp only
      omega

theorem IsPlain.of_mem_faces (ha : a.IsPlain dicts) (h : q ∈ faces a b) : q.1.IsPlain dicts := by
  obtain ⟨items, rfl | rfl, hq⟩ | ⟨entries, rfl, e, he, hq⟩ := mem_of_mem_faces h
  · cases ha with
    | list hitems => exact hitems _ hq
  · cases ha with
    | tuple hitems => exact hitems _ hq
  · cases ha with
    | dict _ hkeys hvalues =>
        obtain hq | hq := hq
        · exact hq ▸ hkeys e he
        · exact hq ▸ hvalues e he

/-! ## Every position -/

variable {x y : Value}

/-- What is equal is equal at every position. -/
theorem IsPlain.equal_of_meets (ha : a.IsPlain dicts) (h : equal a b = true)
    (hmeets : Meets a b x y) : x.IsPlain dicts ∧ equal x y = true := by
  suffices hall : ∀ q : Value × Value,
      Relation.ReflTransGen (fun p q => q ∈ faces p.1 p.2) (a, b) q →
        q.1.IsPlain dicts ∧ equal q.1 q.2 = true from hall (x, y) hmeets
  intro q hq
  induction hq with
  | refl => exact ⟨ha, h⟩
  | tail _ hstep ih =>
      obtain ⟨hplain, hequal⟩ := ih
      exact ⟨hplain.of_mem_faces hstep, (hplain.equal_iff_faces.1 hequal).2 _ hstep⟩

/-- What is alike at every position is equal. -/
theorem IsPlain.equal_of_alike {a b : Value} (ha : a.IsPlain dicts)
    (h : ∀ x y, Meets a b x y → alike x y = true) : equal a b = true :=
  ha.equal_iff_faces.2 ⟨h a b .refl, fun _ hq =>
    (ha.of_mem_faces hq).equal_of_alike fun x y hmeets => h x y (.head hq hmeets)⟩
termination_by sizeOf a
decreasing_by exact sizeOf_lt_of_mem_faces hq

/-- **Plain data are equal if they are alike at every position.** -/
theorem IsPlain.equal_iff (ha : a.IsPlain dicts) :
    equal a b = true ↔ ∀ x y, Meets a b x y → alike x y = true := by
  refine ⟨fun h x y hmeets => ?_, ha.equal_of_alike⟩
  obtain ⟨hx, hequal⟩ := ha.equal_of_meets h hmeets
  exact (hx.equal_iff_faces.1 hequal).1

/-- Where values are strictly equal, so are those at all positions, but where a truth value stands
against a number. -/
theorem IsPlain.strictEqual_of_meets (ha : a.IsPlain dicts) (h : a.strictEqual b = true)
    (hmeets : Meets a b x y) : x.strictEqual y = true ↔ mixes x y = false := by
  rw [strictEqual_iff, and_iff_right (ha.equal_of_meets (strictEqual_iff.1 h).1 hmeets).2]

end Curly.Value
