import Curly.Proofs.Value.Key
import Curly.Proofs.Value.Lookup

/-!
The order of plain data: two values stand to each other as lesser, equal or greater, or they do not
stand to each other at all. Every ordering is told by this, whichever side it is read from.
-/

namespace Curly

/-- An ordering read from right to left. -/
def CompareOp.flip : CompareOp → CompareOp
  | .lt => .gt
  | .le => .ge
  | .gt => .lt
  | .ge => .le
  | op => op

theorem CompareOp.holds_flip (op : CompareOp) (o : Ordering) :
    op.flip.holds o = op.holds o.swap := by
  cases op <;> cases o <;> rfl

namespace Value

/-- Plain data: nothing, truth values, numbers, texts and bytes, and lists and tuples of plain data,
nested to any depth; with dictionaries among them or without. -/
inductive IsPlain (dicts : Bool) : Value → Prop
  | none : IsPlain dicts .none
  | bool (b : Bool) : IsPlain dicts (.bool b)
  | int (n : Int) : IsPlain dicts (.int n)
  | float (x : Double) : IsPlain dicts (.float x)
  | str (s : String) : IsPlain dicts (.str s)
  | bytes (b : List UInt8) : IsPlain dicts (.bytes b)
  | list {items : List Value} (h : ∀ v ∈ items, IsPlain dicts v) : IsPlain dicts (.list items)
  | tuple {items : List Value} (h : ∀ v ∈ items, IsPlain dicts v) : IsPlain dicts (.tuple items)
  | dict {entries : List (Value × Value)} (hdicts : dicts = true)
      (hkeys : ∀ e ∈ entries, IsPlain dicts e.1) (hvalues : ∀ e ∈ entries, IsPlain dicts e.2) :
      IsPlain dicts (.dict entries)

variable {a b : Value} {dicts : Bool}

/-- Equality of plain data goes both ways. -/
theorem IsPlain.equal_comm (ha : a.IsPlain false) : equal a b = equal b a := by
  induction ha generalizing b with
  | none => exact IsKey.none.equal_comm
  | bool p => exact (IsKey.bool p).equal_comm
  | int n => exact (IsKey.int n).equal_comm
  | float x => exact (IsKey.float x).equal_comm
  | str s => exact (IsKey.str s).equal_comm
  | bytes s => exact (IsKey.bytes s).equal_comm
  | list _ ih =>
      cases b with
      | list others => rw [equal, equal, equalAll_comm ih]
      | _ => simp [equal, number?]
  | tuple _ ih =>
      cases b with
      | tuple others => rw [equal, equal, equalAll_comm ih]
      | _ => simp [equal, number?]
  | dict hdicts => cases hdicts

/-! ## Numbers -/

theorem compareRat_swap (p q : Rat) :
    (if q < p then Ordering.lt else if q = p then .eq else .gt) =
      (if p < q then Ordering.lt else if p = q then .eq else .gt).swap := by
  obtain hlt | rfl | hgt := lt_trichotomy p q
  · rw [if_neg (lt_asymm hlt), if_neg (ne_of_gt hlt), if_pos hlt]
    rfl
  · rw [if_neg (lt_irrefl p), if_pos rfl]
    rfl
  · rw [if_pos hgt, if_neg (lt_asymm hgt), if_neg (ne_of_gt hgt)]
    rfl

theorem compareDouble?_swap (x y : Double) : y.compare? x = (x.compare? y).map Ordering.swap := by
  cases x with
  | nan => cases y <;> rfl
  | infinite s =>
      cases y with
      | nan => rfl
      | infinite t => cases s <;> cases t <;> rfl
      | finite => cases s <;> rfl
  | finite s m e =>
      cases y with
      | nan => rfl
      | infinite t => cases t <;> rfl
      | finite t n k => exact congrArg some (compareRat_swap _ _)

/-- A comparison of numbers the other way round. -/
theorem Number.compare?_swap (m n : Number) :
    n.compare? m = (m.compare? n).map Ordering.swap := by
  cases m with
  | int i =>
      cases n with
      | int j => exact congrArg some (Std.OrientedCmp.eq_swap)
      | float y => rfl
  | float x =>
      cases n with
      | int j => simp [compare?, Function.comp_def]
      | float y => exact compareDouble?_swap x y

/-! ## Three-way comparison -/

mutual

/-- Where two values stand to each other, if anywhere. -/
def place? : Value → Value → Option Ordering
  | .str a, .str b => some (lexicographic compare a.toList b.toList)
  | .bytes a, .bytes b => some (lexicographic compare a b)
  | .list as, .list bs => placeAll? as bs
  | .tuple as, .tuple bs => placeAll? as bs
  | a, b => a.number?.bind fun m => b.number?.bind m.compare?

/-- Where two lists stand to each other: as the first values do that are not equal. -/
def placeAll? : List Value → List Value → Option Ordering
  | [], [] => some .eq
  | [], _ :: _ => some .lt
  | _ :: _, [] => some .gt
  | a :: as, b :: bs => if equal a b then placeAll? as bs else place? a b

end

/-- Where a number stands to other values. -/
theorem place?_of_number? {m : Number} (ha : a.number? = some m) :
    place? a b = b.number?.bind m.compare? := by
  cases a with
  | bool | int | float =>
      cases ha
      cases b <;> simp [place?, number?]
  | _ => cases ha

/-- Numbers are ordered by where they stand to each other. -/
theorem orders_of_number? (op : CompareOp) {m : Number} (ha : a.number? = some m) :
    orders op a b = (place? a b).any op.holds := by
  rw [place?_of_number? ha, orders]
  cases a with
  | bool | int | float =>
      cases ha
      cases b with
      | bool | int | float =>
          simp only [order, number?, Option.bind_some]
          split <;> simp [*, Except.toOption]
      | _ => simp [order, number?, Except.toOption]
  | _ => cases ha

theorem ordersAll_eq (op : CompareOp) {as : List Value}
    (has : ∀ a ∈ as, ∀ b, orders op a b = (place? a b).any op.holds) (bs : List Value) :
    (orderAll op as bs).toOption.getD false = (placeAll? as bs).any op.holds := by
  induction as generalizing bs with
  | nil =>
      cases bs <;> rfl
  | cons a as ih =>
      cases bs with
      | nil => rfl
      | cons b bs =>
          obtain ⟨ha, has⟩ := List.forall_mem_cons.1 has
          rw [orderAll, placeAll?]
          split
          · exact ih has bs
          · exact ha b

/-- **An ordering of plain data holds by where they stand to each other.** -/
theorem IsPlain.orders_eq (ha : a.IsPlain dicts) (op : CompareOp) (b : Value) :
    orders op a b = (place? a b).any op.holds := by
  induction ha generalizing b with
  | none | dict => cases b <;> simp [orders, order, place?, number?, Except.toOption]
  | bool | int | float => exact orders_of_number? op rfl
  | str s => cases b <;> simp [orders, order, place?, number?, Except.toOption]
  | bytes s => cases b <;> simp [orders, order, place?, number?, Except.toOption]
  | @list items _ ih =>
      cases b with
      | list others =>
          rw [orders, order, place?]
          exact ordersAll_eq op ih others
      | _ => simp [orders, order, place?, number?, Except.toOption]
  | @tuple items _ ih =>
      cases b with
      | tuple others =>
          rw [orders, order, place?]
          exact ordersAll_eq op ih others
      | _ => simp [orders, order, place?, number?, Except.toOption]

/-! ## The other way round -/

theorem lexicographic_swap {α : Type} (cmp : α → α → Ordering) [Std.OrientedCmp cmp]
    (as bs : List α) : lexicographic cmp bs as = (lexicographic cmp as bs).swap := by
  induction as generalizing bs with
  | nil => cases bs <;> rfl
  | cons a as ih =>
      cases bs with
      | nil => rfl
      | cons b bs =>
          have hswap : cmp b a = (cmp a b).swap := Std.OrientedCmp.eq_swap
          rw [lexicographic, lexicographic, hswap, ih]
          cases cmp a b <;> rfl

theorem placeAll?_swap {as bs : List Value} (has : ∀ a ∈ as, a.IsPlain false)
    (hswap : ∀ a ∈ as, ∀ b ∈ bs, place? b a = (place? a b).map Ordering.swap) :
    placeAll? bs as = (placeAll? as bs).map Ordering.swap := by
  induction as generalizing bs with
  | nil => cases bs <;> rfl
  | cons a as ih =>
      cases bs with
      | nil => rfl
      | cons b bs =>
          obtain ⟨ha, has⟩ := List.forall_mem_cons.1 has
          -- Equality goes both ways, so both sides pass over the same items.
          rw [placeAll?, placeAll?, ← ha.equal_comm]
          split
          · exact ih has fun a' ha' b' hb' => hswap a' (.tail _ ha') b' (.tail _ hb')
          · exact hswap a (.head _) b (.head _)

theorem place?_of_number?_right {m : Number} (ha : a.number? = some m) :
    place? b a = b.number?.bind fun n => n.compare? m := by
  cases a with
  | bool | int | float =>
      cases ha
      cases b <;> simp [place?, number?]
  | _ => cases ha

/-- Where plain data stand the other way round. -/
theorem IsPlain.place?_swap (ha : a.IsPlain false) (b : Value) :
    place? b a = (place? a b).map Ordering.swap := by
  -- numbers of all kinds are compared in one way
  have hnumber {a b : Value} {m : Number} (h : a.number? = some m) :
      place? b a = (place? a b).map Ordering.swap := by
    rw [place?_of_number? h, place?_of_number?_right h]
    cases b.number? with
    | none => rfl
    | some n => exact m.compare?_swap n
  induction ha generalizing b with
  | none => cases b <;> simp [place?, number?]
  | bool | int | float => exact hnumber rfl
  | str s =>
      cases b with
      | str t => exact congrArg some (lexicographic_swap compare s.toList t.toList)
      | _ => simp [place?, number?]
  | bytes s =>
      cases b with
      | bytes t => exact congrArg some (lexicographic_swap compare s t)
      | _ => simp [place?, number?]
  | list h ih =>
      cases b with
      | list others => exact placeAll?_swap h fun a ha b _ => ih a ha b
      | _ => simp [place?, number?]
  | tuple h ih =>
      cases b with
      | tuple others => exact placeAll?_swap h fun a ha b _ => ih a ha b
      | _ => simp [place?, number?]
  | dict hdicts => cases hdicts

/-- **An ordering of plain data is the flipped ordering the other way round.** -/
theorem IsPlain.orders_flip (ha : a.IsPlain false) (hb : b.IsPlain false) (op : CompareOp) :
    orders op.flip a b = orders op b a := by
  rw [ha.orders_eq, hb.orders_eq, ha.place?_swap]
  cases place? a b with
  | none => rfl
  | some o => exact op.holds_flip o

/-! ## Equal places -/

theorem lexicographic_eq_iff {α : Type} (cmp : α → α → Ordering) [Std.LawfulEqCmp cmp]
    {as bs : List α} : lexicographic cmp as bs = .eq ↔ as = bs := by
  induction as generalizing bs with
  | nil => cases bs <;> simp [lexicographic]
  | cons a as ih =>
      cases bs with
      | nil => simp [lexicographic]
      | cons b bs =>
          have hiff : cmp a b = .eq ↔ a = b := Std.LawfulEqCmp.compare_eq_iff_eq
          rw [lexicographic, List.cons.injEq, ← hiff, ← ih]
          cases cmp a b <;> simp

theorem equalAll_iff_of_placeAll? {as bs : List Value} {o : Ordering}
    (has : ∀ a ∈ as, ∀ {b : Value} {o : Ordering}, place? a b = some o →
      (equal a b = true ↔ o = .eq)) (h : placeAll? as bs = some o) :
    equalAll as bs = true ↔ o = .eq := by
  induction as generalizing bs with
  | nil =>
      cases bs <;> cases h <;> simp [equalAll]
  | cons a as ih =>
      cases bs with
      | nil =>
          cases h
          simp [equalAll]
      | cons b bs =>
          obtain ⟨ha, has⟩ := List.forall_mem_cons.1 has
          rw [equalAll, Bool.and_eq_true]
          rw [placeAll?] at h
          split at h
          case isTrue hab => rw [and_iff_right hab, ih has h]
          case isFalse hab => exact iff_of_false (fun hall => hab hall.1) (mt (ha h).2 hab)

/-- Plain data that stand to each other are equal if they stand in the same place. -/
theorem IsPlain.equal_iff_of_place? (ha : a.IsPlain dicts) {o : Ordering}
    (h : place? a b = some o) : equal a b = true ↔ o = .eq := by
  induction ha generalizing b o with
  -- no value and dictionaries stand nowhere
  | none | dict => cases b <;> simp [place?, number?] at h
  | bool | int | float =>
      rw [place?_of_number? rfl, Option.bind_eq_some_iff] at h
      obtain ⟨n, hn, hplace⟩ := h
      rw [equal_of_number? rfl, hn]
      simp [hplace]
  | str s =>
      cases b with
      | str t =>
          cases h
          rw [lexicographic_eq_iff, equal, beq_iff_eq, String.toList_inj]
      | _ => simp [place?, number?] at h
  | bytes s =>
      cases b with
      | bytes t =>
          cases h
          rw [lexicographic_eq_iff, equal, beq_iff_eq]
      | _ => simp [place?, number?] at h
  | list _ ih =>
      cases b with
      | list others =>
          rw [equal]
          exact equalAll_iff_of_placeAll? ih h
      | _ => simp [place?, number?] at h
  | tuple _ ih =>
      cases b with
      | tuple others =>
          rw [equal]
          exact equalAll_iff_of_placeAll? ih h
      | _ => simp [place?, number?] at h

/-- What is neither lesser nor greater stands in the same place. -/
theorem IsPlain.place?_eq_of_orders (ha : a.IsPlain dicts) (hge : orders .ge a b = true)
    (hle : orders .le a b = true) : place? a b = some .eq := by
  rw [ha.orders_eq] at hge hle
  cases hplace : place? a b with
  | none =>
      rw [hplace] at hge
      cases hge
  | some o =>
      rw [hplace] at hge hle
      cases o with
      | lt => cases hge
      | eq => rfl
      | gt => cases hle

end Value

end Curly
