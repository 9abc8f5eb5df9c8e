import Curly.Text.Search

/-!
Where a pattern occurs. Cutting finds the first occurrence: what stands before it, with all of the
pattern but its last character, does not hold the pattern. In this form nothing is said about what
follows the occurrence, so what is found in a text is found in every longer one.
-/

namespace Curly.Text

variable {α : Type}

/-- Where `pat` follows `before`, it occurs for the first time. -/
def IsFirstAfter (pat before : List α) : Prop := ¬pat <:+: before ++ pat.dropLast

/-- A pattern does not occur in a shorter list. -/
theorem not_infix_of_length_lt {pat s : List α} (h : s.length < pat.length) : ¬pat <:+: s :=
  fun hs => absurd hs.length_le (Nat.not_le.2 h)

theorem isFirstAfter_nil {pat : List α} (hpat : pat ≠ []) : IsFirstAfter pat [] := by
  refine not_infix_of_length_lt ?_
  have := List.length_pos_iff.2 hpat
  rw [List.nil_append, List.length_dropLast]
  omega

/-- What stands before the first occurrence does not hold the pattern. -/
theorem IsFirstAfter.not_isInfix {pat before : List α} (h : IsFirstAfter pat before) :
    ¬pat <:+: before :=
  fun hb => h (hb.trans (List.prefix_append _ _).isInfix)

/-- A pattern that stands before itself stands before all of itself but its last character. -/
theorem isPrefix_append_dropLast {pat before rest : List α} {c : α}
    (h : pat <+: c :: before ++ pat ++ rest) : pat <+: c :: before ++ pat.dropLast := by
  have hlength : pat.length ≤ (c :: before ++ pat.dropLast).length := by
    simp only [List.length_append, List.length_cons, List.length_dropLast]
    omega
  refine List.prefix_of_prefix_length_le h ?_ hlength
  rw [List.append_assoc]
  exact List.prefix_append_right_inj _ |>.2 ((List.dropLast_prefix pat).trans
    (List.prefix_append _ _))

variable [BEq α] [LawfulBEq α]

/-- Cutting finds the first occurrence. -/
theorem cut_append {pat before : List α} (h : IsFirstAfter pat before) (rest : List α) :
    cut pat (before ++ pat ++ rest) = some (before, rest) := by
  induction before with
  | nil =>
      rw [cut.eq_def, if_pos (by simp)]
      simp
  | cons c cs ih =>
      have hcs : IsFirstAfter pat cs := fun hin => h (List.infix_cons hin)
      -- An earlier occurrence would end in front of the last character of this one.
      have hprefix : ¬pat.isPrefixOf (c :: cs ++ pat ++ rest) := by
        rw [List.isPrefixOf_iff_prefix]
        exact fun hp => h (isPrefix_append_dropLast hp).isInfix
      rw [cut.eq_def, if_neg hprefix]
      show (cut pat (cs ++ pat ++ rest)).map _ = _
      rw [ih hcs]
      rfl

/-- Where cutting cuts is the first occurrence. -/
theorem isFirstAfter_of_cut {pat s before rest : List α} (hpat : pat ≠ [])
    (h : cut pat s = some (before, rest)) : IsFirstAfter pat before := by
  induction s generalizing before rest with
  | nil =>
      have heq : [] = before ++ pat ++ rest := eq_of_cut h
      simp [hpat] at heq
  | cons c cs ih =>
      rw [cut.eq_def] at h
      split at h
      · cases h
        exact isFirstAfter_nil hpat
      · rename_i hprefix
        obtain ⟨⟨b, r⟩, hb, he⟩ := Option.map_eq_some_iff.1 h
        cases he
        intro hin
        obtain hp | hin := List.infix_cons_iff.1 hin
        · -- an occurrence in front would have been cut at, since what follows it is still in the
          -- text
          refine hprefix (List.isPrefixOf_iff_prefix.2 (hp.trans ?_))
          rw [eq_of_cut hb, List.append_assoc]
          exact List.prefix_cons_inj c |>.2 (List.prefix_append_right_inj _ |>.2
            ((List.dropLast_prefix pat).trans (List.prefix_append _ _)))
        · exact ih hb hin

/-- A pattern of one character occurs for the first time behind what is free of the character. -/
theorem isFirstAfter_of_not_mem {pat before : List α} {c : α} (hc : c ∉ before)
    (hpat : ∀ d ∈ pat, d = c) (hne : pat ≠ []) : IsFirstAfter pat before := by
  intro hin
  have hcount := hin.sublist.count_le c
  rw [List.count_append, List.count_eq_zero_of_not_mem hc, Nat.zero_add,
    List.count_eq_length.2 fun d hd => (hpat d hd).symm] at hcount
  have hlast := Nat.le_trans hcount List.count_le_length
  have hpos := List.length_pos_iff.2 hne
  rw [List.length_dropLast] at hlast
  omega

theorem cut_eq_some_iff {pat s before rest : List α} (hpat : pat ≠ []) :
    cut pat s = some (before, rest) ↔ s = before ++ pat ++ rest ∧ IsFirstAfter pat before :=
  ⟨fun h => ⟨eq_of_cut h, isFirstAfter_of_cut hpat h⟩, fun ⟨hs, h⟩ => hs ▸ cut_append h rest⟩

/-- Cutting fails where the pattern does not occur. -/
theorem cut_eq_none_iff {pat s : List α} : cut pat s = none ↔ ¬pat <:+: s := by
  induction s with
  | nil => 
      rw [cut.eq_def]
      cases pat <;> simp
  | cons c cs ih =>
      rw [cut.eq_def, List.infix_cons_iff, not_or, ← ih, ← List.isPrefixOf_iff_prefix]
      split <;> simp_all

/-! ## Patterns in texts that are put together -/

/-- A text has a first piece. -/
theorem splitOn_ne_nil (sep : List Char) (limit : Nat) (s : List Char) :
    splitOn sep limit s ≠ [] := by
  cases limit with
  | zero => exact List.cons_ne_nil _ _
  | succ limit =>
      rw [splitOn]
      split
      · exact List.cons_ne_nil _ _
      · exact List.cons_ne_nil _ _

omit [BEq α] [LawfulBEq α] in
/-- A pattern does not reach over a character that it does not hold. -/
theorem infix_append_cons_iff {pat x y : List α} {c : α} (hc : c ∉ pat) :
    pat <:+: x ++ c :: y ↔ pat <:+: x ∨ pat <:+: y := by
  constructor
  · intro h
    -- on the left, on the right, or over the seam, and there over the character
    obtain hx | hy | ⟨l₁, l₂, rfl, h₁, h₂⟩ := List.infix_append_iff.1 h
    · exact .inl hx
    · obtain hp | hy := List.infix_cons_iff.1 hy
      · cases pat with
        | nil => exact .inl List.nil_infix
        | cons d pat =>
            cases (List.cons_prefix_cons.1 hp).1
            exact absurd List.mem_cons_self hc
      · exact .inr hy
    · cases l₂ with
      | nil =>
          rw [List.append_nil]
          exact .inl h₁.isInfix
      | cons d l₂ =>
          cases (List.cons_prefix_cons.1 h₂).1
          exact absurd (List.mem_append_right l₁ List.mem_cons_self) hc
  · rintro (hx | hy)
    · exact hx.trans (List.prefix_append x _).isInfix
    · exact hy.trans ((List.suffix_cons c y).trans (List.suffix_append x _)).isInfix

omit [BEq α] [LawfulBEq α] in
/-- A pair reaches over a seam only if its two parts stand at the seam. -/
theorem pair_infix_append_iff {a b : α} {x y : List α} :
    [a, b] <:+: x ++ y ↔
      [a, b] <:+: x ∨ [a, b] <:+: y ∨ x.getLast? = some a ∧ y.head? = some b := by
  rw [List.infix_append_iff]
  constructor
  · rintro (hx | hy | ⟨l₁, l₂, hsplit, ⟨x', rfl⟩, ⟨y', rfl⟩⟩)
    · exact .inl hx
    · exact .inr (.inl hy)
    · -- the part before the seam is nothing, the first of the two, or both
      match l₁, l₂, hsplit with
      | [], _, rfl => exact .inr (.inl (List.prefix_append _ y').isInfix)
      | [_], [_], rfl => exact .inr (.inr ⟨List.getLast?_concat, rfl⟩)
      | [_, _], [], rfl => exact .inl (List.suffix_append x' _).isInfix
  · rintro (hx | hy | ⟨hx, hy⟩)
    · exact .inl hx
    · exact .inr (.inl hy)
    · obtain ⟨x', rfl⟩ := List.getLast?_eq_some_iff.1 hx
      obtain ⟨y', rfl⟩ := List.head?_eq_some_iff.1 hy
      exact .inr (.inr ⟨[a], [b], rfl, List.suffix_append x' [a], List.prefix_append [b] y'⟩)

end Curly.Text
