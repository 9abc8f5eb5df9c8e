import Curly.Value.Equality
import Mathlib.Algebra.Order.Ring.Unbundled.Rat

/-!
Keys: what data can be found under. Keys that are equal are equal to the same values, be they
numbers of different kinds or tuples of them, so entries under different keys do not get in each
other's way.

Texts are equal to themselves only. Entries that are taken over replace what there was under their
keys, and among them the last one with a key counts.
-/

namespace Curly.Value

/-! ## What stands under a text -/

section Texts

variable {name : String}

theorem equal_str_left {key : Value} : equal (.str name) key = true ↔ key = .str name := by
  cases key with
  | str other =>
    rw [equal, beq_iff_eq, Value.str.injEq]
    exact eq_comm
  | _ => simp [equal]

theorem equal_str_right {key : Value} : equal key (.str name) = true ↔ key = .str name := by
  cases key <;> simp [equal, number?]

theorem field?_cons (key value : Value) (entries : List (Value × Value)) :
    field? name ((key, value) :: entries) =
      (field? name [(key, value)]).or (field? name entries) := by
  simp only [field?, find?]
  split <;> rfl

theorem field?_cons_self (name : String) (value : Value) (entries : List (Value × Value)) :
    field? name ((.str name, value) :: entries) = some value := by
  rw [field?, find?, if_pos (equal_str_left.2 rfl)]

theorem field?_append (front back : List (Value × Value)) :
    field? name (front ++ back) = (field? name front).or (field? name back) := by
  induction front with
  | nil => rfl
  | cons entry rest ih =>
    obtain ⟨key, value⟩ := entry
    rw [List.cons_append, field?_cons, ih, field?_cons key value rest, Option.or_assoc]

theorem field?_insert (key value : Value) (entries : List (Value × Value)) :
    field? name (insert key value entries) =
      (field? name [(key, value)]).or (field? name entries) := by
  induction entries with
  | nil => simp [insert, field?, find?]
  | cons entry rest ih =>
    obtain ⟨k, v⟩ := entry
    rw [insert]
    split
    case isTrue h =>
      by_cases hk : key = .str name
      · subst hk
        have hk' : k = .str name := equal_str_left.mp h
        simp [field?, find?, hk', equal_str_left.mpr rfl]
      · have hk' : k ≠ .str name := fun he => hk (equal_str_right.mp (he ▸ h))
        simp [field?, find?, equal_str_left, hk, hk']
    case isFalse h =>
      -- The entry at hand has another key than the new one.
      rw [field?_cons k, ih, field?_cons k v rest]
      by_cases hk : key = .str name
      · subst hk
        have hk' : k ≠ .str name := fun he => h (equal_str_left.mpr he)
        simp [field?, find?, equal_str_left, hk']
      · have hn : field? name [(key, value)] = Option.none := by
          simp [field?, find?, equal_str_left, hk]
        rw [hn, Option.none_or, Option.none_or]

/-- What entries hold under a text after others were taken over. -/
theorem field?_merge (entries others : List (Value × Value)) :
    field? name (merge entries others) =
      (field? name others.reverse).or (field? name entries) := by
  induction others generalizing entries with
  | nil => rfl
  | cons entry rest ih =>
    obtain ⟨key, value⟩ := entry
    show field? name (merge (insert key value entries) rest) = _
    rw [ih, field?_insert, List.reverse_cons, field?_append, Option.or_assoc]

end Texts

/-! ## Data that can be keys -/

/-- Data that can be keys. -/
inductive IsKey : Value → Prop
  | none : IsKey .none
  | bool (b : Bool) : IsKey (.bool b)
  | int (n : Int) : IsKey (.int n)
  | float (x : Double) : IsKey (.float x)
  | str (s : String) : IsKey (.str s)
  | bytes (b : List UInt8) : IsKey (.bytes b)
  | tuple {items : List Value} (h : ∀ v ∈ items, IsKey v) : IsKey (.tuple items)
  | range (start stop step : Int) : IsKey (.range start stop step)

/-! ## Numbers -/

/-- Where a number stands: at a rational number, or beyond all of them, and then whether below. -/
def Number.level? : Number → Option (Rat ⊕ Bool)
  | .int n => some (.inl n)
  | .float .nan => Option.none
  | .float (.infinite negative) => some (.inr negative)
  | .float x => x.toRat?.map .inl

theorem compareRat_eq_iff {p q : Rat} :
    (if p < q then Ordering.lt else if p = q then .eq else .gt) = .eq ↔ p = q := by
  split_ifs with hlt heq
  · exact iff_of_false nofun (ne_of_lt hlt)
  · exact iff_of_true rfl heq
  · exact iff_of_false nofun heq

theorem compareInt?_eq_iff {n : Int} {y : Double} :
    Double.compareInt? n y = some .eq ↔ (Number.float y).level? = some (.inl n) := by
  cases y with
  | nan => exact iff_of_false nofun nofun
  | infinite t => cases t <;> exact iff_of_false nofun nofun
  | finite s m e =>
      simp only [Double.compareInt?, Number.level?, Double.toRat?, Option.some.injEq,
        compareRat_eq_iff, Option.map_some, Sum.inl.injEq]
      exact eq_comm

theorem compareDouble?_eq_iff {x y : Double} :
    x.compare? y = some .eq ↔
      ∃ l, (Number.float x).level? = some l ∧ (Number.float y).level? = some l := by
  cases x with
  | nan => exact iff_of_false nofun nofun
  | infinite s =>
      cases y with
      | nan => exact iff_of_false nofun nofun
      | infinite t => cases s <;> cases t <;> simp [Double.compare?, Number.level?]
      | finite => cases s <;> simp [Double.compare?, Number.level?, Double.toRat?]
  | finite s m e =>
      cases y with
      | nan => exact iff_of_false nofun nofun
      | infinite t => cases t <;> simp [Double.compare?, Number.level?, Double.toRat?]
      | finite t n k =>
          simp only [Double.compare?, Number.level?, Double.toRat?, Option.some.injEq,
            compareRat_eq_iff, Option.map_some, exists_eq_left', Sum.inl.injEq]
          exact eq_comm

/-- Numbers are equal if they stand in the same place. -/
theorem Number.compare?_eq_iff {m n : Number} :
    m.compare? n = some .eq ↔ ∃ l, m.level? = some l ∧ n.level? = some l := by
  cases m with
  | int a =>
      cases n with
      | int b =>
          simp only [compare?, level?, Option.some.injEq, compare_eq_iff_eq, exists_eq_left',
            Sum.inl.injEq, Rat.intCast_inj]
          exact eq_comm
      | float y =>
          rw [compare?, compareInt?_eq_iff]
          simp [level?]
  | float x =>
      cases n with
      | int b =>
          -- an integer on the left is compared by exchanging the two
          have hswap : compare? (.float x) (.int b) = some .eq ↔
              Double.compareInt? b x = some .eq := by
            rw [compare?]
            cases Double.compareInt? b x with
            | none => simp
            | some o => cases o <;> simp
          rw [hswap, compareInt?_eq_iff]
          simp [level?]
      | float y => exact compareDouble?_eq_iff

/-! ## Keys -/

/-- A number is equal to numbers in the same place. -/
theorem equal_of_number? {k v : Value} {m : Number} (hk : k.number? = some m) :
    equal k v = true ↔ ∃ n, v.number? = some n ∧ m.compare? n = some .eq := by
  cases k with
  | bool | int | float =>
      cases hk
      rw [equal]
      cases v.number? <;> simp
  | _ => cases hk

theorem equal_of_number?_right {k v : Value} {n : Number} (hk : k.number? = some n) :
    equal v k = true ↔ ∃ m, v.number? = some m ∧ m.compare? n = some .eq := by
  cases hv : v.number? with
  | some m => simp [equal_of_number? hv, hk]
  | none =>
      refine iff_of_false (fun h => ?_) nofun
      cases v with
      | bool | int | float => cases hv
      | _ =>
          cases k with
          | bool | int | float => simp [equal] at h
          | _ => cases hk

/-- What is equal to a number is equal to the same values. -/
theorem equal_congr_number {k k' q : Value} {m : Number} (hk : k.number? = some m)
    (h : equal k k' = true) : equal q k' = equal q k := by
  obtain ⟨n, hk', hmn⟩ := (equal_of_number? hk).1 h
  obtain ⟨l, hm, hn⟩ := Number.compare?_eq_iff.1 hmn
  rw [Bool.eq_iff_iff, equal_of_number?_right hk, equal_of_number?_right hk']
  simp only [Number.compare?_eq_iff, hm, hn]

theorem equalRanges_congr {a b c : Int × Int × Int} (h : equalRanges a b = true) :
    equalRanges c b = equalRanges c a := by
  rw [Bool.eq_iff_iff]
  simp only [equalRanges, Bool.and_eq_true, Bool.or_eq_true, beq_iff_eq] at h ⊢
  generalize rangeLength a.1 a.2.1 a.2.2 = l at *
  generalize rangeLength b.1 b.2.1 b.2.2 = m at *
  generalize rangeLength c.1 c.2.1 c.2.2 = n at *
  omega

theorem equalAll_congr {as bs : List Value} (h : equalAll as bs = true)
    (has : ∀ a ∈ as, ∀ {b q}, equal a b = true → equal q b = equal q a) (qs : List Value) :
    equalAll qs bs = equalAll qs as := by
  induction as generalizing bs qs with
  | nil =>
      cases bs with
      | nil => rfl
      | cons b bs => simp [equalAll] at h
  | cons a as ih =>
      cases bs with
      | nil => simp [equalAll] at h
      | cons b bs =>
          rw [equalAll, Bool.and_eq_true] at h
          obtain ⟨ha, has⟩ := List.forall_mem_cons.1 has
          cases qs with
          | nil => simp [equalAll]
          | cons q qs => rw [equalAll, equalAll, ha h.1, ih h.2 has]

/-- What is equal to a key is equal to the same values. -/
theorem IsKey.equal_congr {k k' q : Value} (hk : k.IsKey) (h : equal k k' = true) :
    equal q k' = equal q k := by
  induction hk generalizing k' q with
  | none => cases k' <;> simp_all [equal]
  | bool => exact equal_congr_number rfl h
  | int => exact equal_congr_number rfl h
  | float => exact equal_congr_number rfl h
  | str s => rw [equal_str_left.1 h]
  | bytes b => cases k' <;> simp_all [equal]
  -- what is equal to a tuple is a tuple, and is compared item by item
  | @tuple items _ ih =>
      cases k' with
      | tuple others =>
          rw [equal] at h
          cases q with
          | tuple qs => rw [equal, equal, equalAll_congr h ih qs]
          | _ => simp [equal, number?]
      | _ => simp [equal] at h
  | range a b c =>
      cases k' with
      | range d e f =>
          rw [equal] at h
          cases q with
          | range i j k => rw [equal, equal, equalRanges_congr h]
          | _ => simp [equal, number?]
      | _ => simp [equal] at h

theorem equal_comm_number {k v : Value} {m : Number} (hk : k.number? = some m) :
    equal k v = equal v k := by
  rw [Bool.eq_iff_iff, equal_of_number? hk, equal_of_number?_right hk]
  simp only [Number.compare?_eq_iff, and_comm]

theorem equalRanges_comm (a b : Int × Int × Int) : equalRanges a b = equalRanges b a := by
  rw [Bool.eq_iff_iff]
  simp only [equalRanges, Bool.and_eq_true, Bool.or_eq_true, beq_iff_eq]
  omega

theorem equalAll_comm {as : List Value} (has : ∀ a ∈ as, ∀ {b}, equal a b = equal b a)
    (bs : List Value) : equalAll as bs = equalAll bs as := by
  induction as generalizing bs with
  | nil => cases bs <;> simp [equalAll]
  | cons a as ih =>
      obtain ⟨ha, has⟩ := List.forall_mem_cons.1 has
      cases bs with
      | nil => simp [equalAll]
      | cons b bs => rw [equalAll, equalAll, ha, ih has]

theorem IsKey.equal_comm {k v : Value} (hk : k.IsKey) : equal k v = equal v k := by
  induction hk generalizing v with
  | none => cases v <;> simp [equal, number?]
  | bool => exact equal_comm_number rfl
  | int => exact equal_comm_number rfl
  | float => exact equal_comm_number rfl
  | str s => rw [Bool.eq_iff_iff, equal_str_left, equal_str_right]
  | bytes b =>
      cases v with
      | bytes c => rw [equal, equal, Bool.eq_iff_iff, beq_iff_eq, beq_iff_eq, eq_comm]
      | _ => simp [equal, number?]
  | tuple _ ih =>
      cases v with
      | tuple others => rw [equal, equal, equalAll_comm ih]
      | _ => simp [equal, number?]
  | range a b c =>
      cases v with
      | range d e f => rw [equal, equal, equalRanges_comm]
      | _ => simp [equal, number?]

theorem isKey_of_number? {v : Value} {m : Number} (hv : v.number? = some m) : v.IsKey := by
  cases v with
  | bool b => exact .bool b
  | int n => exact .int n
  | float x => exact .float x
  | _ => cases hv

theorem isKey_of_equalAll {as : List Value}
    (has : ∀ a ∈ as, ∀ {b}, equal a b = true → b.IsKey) {bs : List Value}
    (h : equalAll as bs = true) : ∀ b ∈ bs, b.IsKey := by
  induction as generalizing bs with
  | nil =>
      cases bs with
      | nil => exact nofun
      | cons b bs => simp [equalAll] at h
  | cons a as ih =>
      obtain ⟨ha, has⟩ := List.forall_mem_cons.1 has
      cases bs with
      | nil => exact nofun
      | cons b bs =>
          rw [equalAll, Bool.and_eq_true] at h
          exact List.forall_mem_cons.2 ⟨ha h.1, ih has h.2⟩

/-- What a key is equal to is a key. -/
theorem IsKey.of_equal {k v : Value} (hk : k.IsKey) (h : equal k v = true) : v.IsKey := by
  induction hk generalizing v with
  | none =>
      cases v with
      | none => exact .none
      | _ => simp [equal] at h
  -- what is equal to a number is one, perhaps of another kind
  | bool | int | float =>
      obtain ⟨n, hn, -⟩ := (equal_of_number? rfl).1 h
      exact isKey_of_number? hn
  | str s =>
      rw [equal_str_left.1 h]
      exact .str s
  | bytes b =>
      cases v with
      | bytes c => exact .bytes c
      | _ => simp [equal] at h
  | tuple _ ih =>
      cases v with
      | tuple others =>
          rw [equal] at h
          exact .tuple (isKey_of_equalAll ih h)
      | _ => simp [equal] at h
  | range =>
      cases v with
      | range d e f => exact .range d e f
      | _ => simp [equal] at h

/-- Two values that something is equal to are equal if one of them is a key. -/
theorem IsKey.equal_of_both {k v q : Value} (hk : k.IsKey) (hqk : equal q k = true)
    (hqv : equal q v = true) : equal k v = true := by
  have hq : q.IsKey := hk.of_equal (hk.equal_comm.trans hqk)
  rw [hq.equal_congr hqv, hk.equal_comm, hqk]

/-! ## Entries -/

variable {α : Type} {key q : Value} {a : α} {entries others : List (Value × α)}

/-- What is found when something is set under a key. -/
theorem find?_insert (hkey : key.IsKey) :
    find? q (insert key a entries) = if equal q key then some a else find? q entries := by
  induction entries with
  | nil => rfl
  | cons entry rest ih =>
      obtain ⟨k, b⟩ := entry
      rw [insert]
      split
      case isTrue h =>
        rw [find?, find?, hkey.equal_congr h]
        split <;> rfl
      case isFalse h =>
        rw [find?, find?, ih]
        by_cases hk : equal q k = true
        · -- a value is not equal to two keys that differ
          have hne : ¬equal q key = true := fun hq => h (hkey.equal_of_both hq hk)
          rw [if_pos hk, if_pos hk, if_neg hne]
        · rw [if_neg hk, if_neg hk]

/-- Keys of which no two are equal, as those of a dictionary. -/
structure AreDistinct (keys : List Value) : Prop where
  isKey : ∀ k ∈ keys, k.IsKey
  pairwise : keys.Pairwise fun k k' => equal k k' = false

theorem find?_eq_none (h : ∀ e ∈ entries, equal q e.1 = false) : find? q entries = Option.none := by
  induction entries with
  | nil => rfl
  | cons entry rest ih =>
      obtain ⟨hentry, hrest⟩ := List.forall_mem_cons.1 h
      rw [find?, hentry, ih hrest]
      rfl

/-- What is found when entries are set one by one. -/
theorem find?_foldl_insert (hothers : AreDistinct (others.map Prod.fst)) :
    find? q (others.foldl (fun es (k, b) => insert k b es) entries) =
      (find? q others).or (find? q entries) := by
  induction others generalizing entries with
  | nil => rfl
  | cons entry rest ih =>
      obtain ⟨k, b⟩ := entry
      obtain ⟨hkey, hkeys⟩ := List.forall_mem_cons.1 hothers.isKey
      obtain ⟨hfirst, hpairwise⟩ := List.pairwise_cons.1 hothers.pairwise
      rw [List.foldl_cons, ih ⟨hkeys, hpairwise⟩, find?_insert hkey, find?]
      -- If the first entry has the key then no later one has, since keys are distinct.
      by_cases hq : equal q k = true
      · have hrest : find? q rest = Option.none := find?_eq_none fun e he => by
          by_contra hne
          have hboth := hkey.equal_of_both hq (Bool.not_eq_false _ ▸ hne)
          rw [hfirst e.1 (List.mem_map_of_mem he)] at hboth
          cases hboth
        rw [if_pos hq, if_pos hq, hrest]
        rfl
      · rw [if_neg hq, if_neg hq]

end Curly.Value
