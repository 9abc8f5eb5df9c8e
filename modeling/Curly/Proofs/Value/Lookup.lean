import Curly.Lookup
import Curly.Proofs.Text.Ascii
import Curly.Proofs.Text.Search
import Curly.Term.Form

/-!
Lookups and comparisons that do not fail. The keys of a path are names, and a name is never the
position of an item, so the length of an array does not matter; what is not there is nothing. Values
that have no order do not compare, which is no failure either.
-/

namespace Curly

/-! ## The keys of a path -/

/-- A line feed behind a text is behind its last piece. -/
theorem Text.mem_splitOn_concat {s : List Char} {n k : Nat} (hn : s.length ≤ n)
    (hk : s.length < k) {key : List Char} (h : key ∈ splitOn ['.'] k (s ++ ['\n'])) :
    ∃ piece ∈ splitOn ['.'] n s, key = piece ∨ key = piece ++ ['\n'] := by
  induction n generalizing s k with
  | zero =>
      cases List.length_eq_zero_iff.1 (Nat.le_zero.1 hn)
      obtain ⟨k, rfl⟩ := Nat.exists_eq_succ_of_ne_zero (Nat.ne_of_gt hk)
      exact ⟨[], List.mem_singleton.2 rfl, .inr (List.mem_singleton.1 h)⟩
  | succ n ih =>
      have hpos : 0 < k := Nat.lt_of_le_of_lt (Nat.zero_le _) hk
      obtain ⟨k, rfl⟩ := Nat.exists_eq_succ_of_ne_zero (Nat.ne_of_gt hpos)
      rw [splitOn] at h ⊢
      cases hcut : cut ['.'] s with
      | none =>
          -- the line feed is no dot, so the cuts are at the same places
          have hnone : cut ['.'] (s ++ ['\n']) = none := by
            rw [cut_eq_none_iff] at hcut ⊢
            rw [infix_append_cons_iff (by decide)]
            simpa using hcut
          rw [hnone] at h
          exact ⟨s, List.mem_singleton.2 rfl, .inr (List.mem_singleton.1 h)⟩
      | some parts =>
          obtain ⟨before, rest⟩ := parts
          have hlength := length_of_cut hcut
          obtain ⟨hs, hfirst⟩ := (cut_eq_some_iff (by simp)).1 hcut
          have hsome : cut ['.'] (s ++ ['\n']) = some (before, rest ++ ['\n']) := by
            rw [hs, List.append_assoc (before ++ ['.'])]
            exact cut_append hfirst _
          rw [hsome] at h
          rw [List.length_singleton] at hlength
          obtain rfl | h := List.mem_cons.1 h
          · exact ⟨key, List.mem_cons_self, .inl rfl⟩
          · obtain ⟨piece, hpiece, hkey⟩ := ih (by omega) (by omega) h
            exact ⟨piece, List.mem_cons_of_mem _ hpiece, hkey⟩

namespace Form

/-- What starts a segment is no decimal digit. -/
theorem isDecimal_of_isSegment {c : Char} {cs : List Char} (h : isSegment (c :: cs) = true) :
    Text.Unicode.isDecimal c = false := by
  rw [isSegment, Bool.and_eq_true] at h
  have hfirst := h.1
  rw [startsName, Bool.or_eq_true, Bool.or_eq_true, beq_iff_eq, beq_iff_eq] at hfirst
  have hrange : c.toNat < 128 ∧ c.isDigit = false := by
    obtain (hletter | rfl) | rfl := hfirst
    · have hle := Text.toNat_of_isAlpha hletter
      exact ⟨by omega, Text.isDigit_of_isAlpha hletter⟩
    · decide
    · decide
  rw [Text.Unicode.isDecimal, Text.Unicode.decimalValue, if_pos hrange.1, hrange.2]
  rfl

/-- No key of a path is the number of a position. -/
theorem not_isDecimal_of_isPath {path : List Char} (h : isPath path = true) :
    ∀ key ∈ Text.splitAll ['.'] path, ∃ c cs, key = c :: cs ∧ Text.Unicode.isDecimal c = false := by
  have hsegment {piece : List Char} (hpiece : isSegment piece = true) :
      ∃ c cs, piece = c :: cs ∧ Text.Unicode.isDecimal c = false := by
    cases piece with
    | nil => cases hpiece
    | cons c cs => exact ⟨c, cs, rfl, isDecimal_of_isSegment hpiece⟩
  intro key hkey
  rw [isPath, List.all_eq_true, dropFinalNewline] at h
  -- a path may end with a line feed, which is no part of its last segment but of its last key
  by_cases hlast : path.getLast? = some '\n'
  · rw [if_pos hlast] at h
    obtain ⟨front, rfl⟩ := List.getLast?_eq_some_iff.1 hlast
    rw [List.dropLast_concat] at h
    obtain ⟨piece, hpiece, hor⟩ :=
      Text.mem_splitOn_concat (Nat.le_refl front.length) (by simp) hkey
    obtain ⟨c, cs, rfl, hc⟩ := hsegment (h piece hpiece)
    obtain rfl | rfl := hor
    · exact ⟨c, cs, rfl, hc⟩
    · exact ⟨c, cs ++ ['\n'], rfl, hc⟩
  · rw [if_neg hlast] at h
    exact hsegment (h key hkey)

end Form

/-! ## Lookups -/

namespace Value

/-- What stands under a key that is no number is there or is nothing. -/
theorem exists_child (v : Value) {key : String} {c : Char} {cs : List Char}
    (hkey : key.toList = c :: cs) (hc : Text.Unicode.isDecimal c = false) :
    ∃ w, v.child key = .ok w := by
  unfold child
  split
  · exact ⟨_, rfl⟩
  · split
    · simp [hkey, hc]
    · exact ⟨_, rfl⟩

theorem exists_follow (v : Value) (keys : List String)
    (hkeys : ∀ key ∈ keys, ∃ c cs, key.toList = c :: cs ∧ Text.Unicode.isDecimal c = false) :
    ∃ w, v.follow keys = .ok w := by
  induction keys generalizing v with
  | nil => exact ⟨v, rfl⟩
  | cons key keys ih =>
      obtain ⟨⟨c, cs, hkey, hc⟩, hrest⟩ := List.forall_mem_cons.1 hkeys
      rw [follow]
      split
      · obtain ⟨w, hw⟩ := v.exists_child hkey hc
        rw [hw]
        exact ih w hrest
      · exact ⟨_, rfl⟩

/-- **Missing data are no failure**: a path leads somewhere, whatever it starts from. -/
theorem exists_lookup (v : Value) {path : List Char} (hpath : Form.isPath path = true) :
    ∃ w, v.lookup (String.ofList path) = .ok w := by
  -- No key of a path begins with a digit, so none is a number that is too long.
  have hkeys : ∀ key ∈ pathKeys (String.ofList path),
      ∃ c cs, key.toList = c :: cs ∧ Text.Unicode.isDecimal c = false := by
    intro key hkey
    rw [pathKeys, String.toList_ofList] at hkey
    obtain ⟨piece, hpiece, rfl⟩ := List.mem_map.1 hkey
    rw [String.toList_ofList]
    exact Form.not_isDecimal_of_isPath hpath piece hpiece
  rw [lookup]
  split
  · exact ⟨_, rfl⟩
  · split
    · exact ⟨_, rfl⟩
    · exact v.exists_follow _ hkeys

/-! ## Comparisons -/

/-- Why an ordering of two values fails: they, or items at the same place in them, have none. -/
theorem error_of_order {op : CompareOp} {f : Fault} {a b : Value} (h : order op a b = .error f) :
    (∃ as bs, (a = .list as ∨ a = .tuple as) ∧ orderAll op as bs = .error f) ∨
      f.faultClass = .typeError := by
  rw [order.eq_def] at h
  split at h
  · cases h
  · cases h
  · exact .inl ⟨_, _, .inl rfl, h⟩
  · exact .inl ⟨_, _, .inr rfl, h⟩
  · cases h
  · split at h
    · split at h
      · cases h
      · cases h
    · cases h
      exact .inr rfl

mutual

/-- An ordering fails with an error of types only. -/
theorem faultClass_of_order {op : CompareOp} {f : Fault} (a b : Value)
    (h : order op a b = .error f) : f.faultClass = .typeError := by
  obtain ⟨as, bs, rfl | rfl, hall⟩ | hclass := error_of_order h
  · exact faultClass_of_orderAll as bs hall
  · exact faultClass_of_orderAll as bs hall
  · exact hclass
termination_by sizeOf a

theorem faultClass_of_orderAll {op : CompareOp} {f : Fault} (as bs : List Value)
    (h : orderAll op as bs = .error f) : f.faultClass = .typeError := by
  match as, bs with
  | [], [] => cases h
  | [], _ :: _ => cases h
  | _ :: _, [] => cases h
  | a :: as, b :: bs =>
      rw [orderAll] at h
      split at h
      · exact faultClass_of_orderAll as bs h
      · exact faultClass_of_order a b h
termination_by sizeOf as

end

/-- Whether an ordering holds between two values; it holds between none that have no order. -/
def orders (o : CompareOp) (a b : Value) : Bool := (order o a b).toOption.getD false

/-- The ordering that a word names holds between two values or does not. -/
theorem compareBy_eq {op : String} {o : CompareOp} (hop : orderingNamed? op = some o)
    (a b : Value) : compareBy (.str op) a b = .ok (orders o a b) := by
  rw [compareBy, hop, orders]
  dsimp only
  cases h : order o a b with
  | ok r => rfl
  | error f => exact if_pos (faultClass_of_order a b h)

/-- Values compare or do not compare. -/
theorem exists_compareBy {op : String} {o : CompareOp} (hop : orderingNamed? op = some o)
    (a b : Value) : ∃ r, compareBy (.str op) a b = .ok r :=
  ⟨_, compareBy_eq hop a b⟩

end Value

end Curly
