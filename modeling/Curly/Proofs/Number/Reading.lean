import Curly.Number.Reading
import Curly.Proofs.Text.Space
import Mathlib.Algebra.Group.Nat.Defs

/-!
Integers that are read: they are no longer than the digits that they are read from, and a sign with
digits of any script is one, unless the digits are too many.
-/

namespace Curly.Reading

/-- The digits that are taken are digits. -/
theorem of_mem_digitsOf? {isDigit : Char → Bool} {s ds : List Char}
    (h : digitsOf? isDigit s = some ds) : ∀ c ∈ ds, isDigit c = true := by
  fun_induction digitsOf? isDigit s generalizing ds with
  | case1 => cases h
  | case2 => cases h
  | case3 c hc =>
      cases h
      simpa using hc
  | case4 c hc d rest hd ih =>
      obtain ⟨rest', hrest, rfl⟩ := Option.map_eq_some_iff.1 h
      simp only [Bool.not_eq_true, Bool.not_eq_false'] at hc
      exact List.forall_mem_cons.2 ⟨by simpa using hc, ih hrest⟩
  | case5 => cases h
  | case6 c hc d rest hne ih =>
      obtain ⟨rest', hrest, rfl⟩ := Option.map_eq_some_iff.1 h
      exact List.forall_mem_cons.2 ⟨by simpa using hc, ih hrest⟩

theorem foldl_lt (ds : List Char) (hds : ∀ c ∈ ds, c.isDigit = true) (n : Nat) :
    ds.foldl (fun n c => 10 * n + (c.toNat - 48)) n < (n + 1) * 10 ^ ds.length := by
  induction ds generalizing n with
  | nil => simp
  | cons c ds ih =>
      obtain ⟨hc, hrest⟩ := List.forall_mem_cons.1 hds
      have hdigit : c.toNat - 48 ≤ 9 := by
        have hle : c.toNat ≤ 57 := (Char.isDigit_iff_toNat.1 hc).2
        omega
      calc
        ds.foldl (fun n c => 10 * n + (c.toNat - 48)) (10 * n + (c.toNat - 48))
          < (10 * n + (c.toNat - 48) + 1) * 10 ^ ds.length := ih hrest _
        _ ≤ (10 * (n + 1)) * 10 ^ ds.length := Nat.mul_le_mul_right _ (by omega)
        _ = (n + 1) * 10 ^ (c :: ds).length := by
          rw [List.length_cons, Nat.pow_succ, Nat.mul_comm 10 (n + 1), Nat.mul_assoc,
            Nat.mul_comm 10]

/-- Digits write a number below the power of ten that has one digit more. -/
theorem natOf_lt {ds : List Char} (hds : ∀ c ∈ ds, c.isDigit = true) {k : Nat}
    (hk : ds.length ≤ k) : natOf ds < Nat.pow 10 k := by
  have h := foldl_lt ds hds 0
  rw [Nat.zero_add, Nat.one_mul] at h
  exact Nat.lt_of_lt_of_le h (Nat.pow_le_pow_right (by decide) hk)

/-- An integer that is read has not too many digits. -/
theorem natAbs_lt_of_int {s : List Char} {n : Int} (h : int s = .ok n) :
    n.natAbs < Nat.pow 10 digitLimit := by
  rw [int] at h
  generalize sign (plain s) = signed at h
  obtain ⟨negative, body⟩ := signed
  dsimp only at h
  split at h
  · cases h
  · rename_i ds hds
    split at h
    · cases h
    · rename_i hlen
      have hlt := natOf_lt (of_mem_digitsOf? hds) (Nat.le_of_not_lt hlen)
      injection h with h
      subst h
      split
      · rw [Int.natAbs_neg, Int.natAbs_natCast]
        exact hlt
      · rw [Int.natAbs_natCast]
        exact hlt

open Curly.Text Curly.Text.Unicode

/-! ### Texts that are integers -/

theorem decimalValue_lt {c : Char} {d : Nat} (h : decimalValue c = some d) : d < 10 := by
  rw [decimalValue] at h
  split at h
  · split at h
    · rename_i hdigit
      cases h
      have hle : c.toNat ≤ 57 := (Char.isDigit_iff_toNat.1 hdigit).2
      omega
    · cases h
  · obtain ⟨lo, -, rfl⟩ := Option.map_eq_some_iff.1 h
    exact Nat.mod_lt _ (by decide)

/-- A digit in ASCII, whatever script it was written in. -/
def asciiDigit (c : Char) : Char :=
  match decimalValue c with
  | some d => Nat.digitChar d
  | none => c

theorem isDigit_asciiDigit {c : Char} (h : isDecimal c = true) :
    (asciiDigit c).isDigit = true := by
  obtain ⟨d, hd⟩ := Option.isSome_iff_exists.1 h
  have hdigits : ∀ d < 10, (Nat.digitChar d).isDigit = true := by decide
  rw [asciiDigit, hd]
  exact hdigits d (decimalValue_lt hd)

theorem isSpace_of_isBlank {c : Char} (h : isBlank c = true) : isSpace c = true := by
  rw [isBlank] at h
  split at h
  · simp only [Bool.or_eq_true, beq_iff_eq, Bool.and_eq_true, decide_eq_true_eq] at h
    rw [isSpace]
    obtain rfl | hrange := h
    · decide
    · simp only [Bool.or_eq_true, Bool.and_eq_true, decide_eq_true_eq]
      omega
  · exact h

/-- A trimmed text has no blanks at its ends. -/
theorem plain_of_strip {s : List Char} (h : strip s = s) : plain s = s.map asciiDigit := by
  obtain ⟨hhead, hlast⟩ := strip_eq_self_iff.1 h
  -- Used at the front of the text, and at its end by turning it round.
  have hdrop {l : List Char} (hl : ∀ c ∈ l.head?, isSpace c = false) :
      l.dropWhile isBlank = l := by
    cases l with
    | nil => rfl
    | cons c cs =>
        have hblank : isBlank c ≠ true := by
          intro hc
          have hspace := hl c rfl
          rw [isSpace_of_isBlank hc] at hspace
          cases hspace
        rw [List.dropWhile_cons_of_neg hblank]
  have hend : s.reverse.dropWhile isBlank = s.reverse := by
    refine hdrop fun c hc => hlast c ?_
    rwa [List.head?_reverse] at hc
  rw [plain, hdrop hhead, hend, List.reverse_reverse]
  rfl

/-- Digits alone are taken as they are. -/
theorem digits?_of_all {ds : List Char} (hne : ds ≠ []) (hds : ∀ c ∈ ds, c.isDigit = true) :
    digits? ds = some ds := by
  rw [digits?]
  fun_induction digitsOf? Char.isDigit ds with
  | case1 => exact absurd rfl hne
  | case2 c cs hc => exact absurd (hds c List.mem_cons_self) (by simpa using hc)
  | case3 => rfl
  | case4 c hc d rest hd ih => exact absurd (hds '_' (by simp)) (by decide)
  | case5 c hc d rest hd => exact absurd (hds '_' (by simp)) (by decide)
  | case6 c hc d rest hne ih =>
      rw [ih (List.cons_ne_nil _ _) (List.forall_mem_cons.1 hds).2]
      rfl

theorem sign_of_ne {c : Char} (hminus : c ≠ '-') (hplus : c ≠ '+') (cs : List Char) :
    sign (c :: cs) = (false, c :: cs) := by
  unfold sign
  split
  · rename_i heq
    exact absurd (List.cons.inj heq).1 hminus
  · rename_i heq
    exact absurd (List.cons.inj heq).1 hplus
  · rfl

/-- A sign stays in front when digits are written in ASCII. -/
theorem sign_map_asciiDigit (s : List Char) (hs : ∀ c ∈ (sign s).2, isDecimal c = true) :
    sign (s.map asciiDigit) = ((sign s).1, (sign s).2.map asciiDigit) := by
  have hsigns : asciiDigit '-' = '-' ∧ asciiDigit '+' = '+' := by decide
  cases s with
  | nil => rfl
  | cons c cs =>
      rw [List.map_cons]
      by_cases hminus : c = '-'
      · rw [hminus, hsigns.1]
        rfl
      by_cases hplus : c = '+'
      · rw [hplus, hsigns.2]
        rfl
      rw [sign_of_ne hminus hplus] at hs ⊢
      -- a digit in ASCII is no sign, so what had no sign has none now
      have hdigit := isDigit_asciiDigit (hs c List.mem_cons_self)
      rw [sign_of_ne]
      · rfl
      · intro heq
        rw [heq] at hdigit
        cases hdigit
      · intro heq
        rw [heq] at hdigit
        cases hdigit

/-- A trimmed text of a sign and digits is read as the integer that it denotes, or is too long. -/
theorem int_of_digits {s : List Char} (hstrip : strip s = s) (hne : (sign s).2 ≠ [])
    (hs : ∀ c ∈ (sign s).2, isDecimal c = true) :
    (digitLimit < (sign s).2.length ∧ int s = .tooLong (sign s).2.length) ∨
      (sign s).2.length ≤ digitLimit ∧
        int s = .ok (if (sign s).1 then -(natOf ((sign s).2.map asciiDigit) : Int)
          else natOf ((sign s).2.map asciiDigit)) := by
  -- the length that is limited is that of the digits, which is the same in ASCII
  have hds : ∀ c ∈ (sign s).2.map asciiDigit, c.isDigit = true := by
    intro c hc
    obtain ⟨d, hd, rfl⟩ := List.mem_map.1 hc
    exact isDigit_asciiDigit (hs d hd)
  have hdigits := digits?_of_all (by simpa using hne) hds
  rw [int, plain_of_strip hstrip, sign_map_asciiDigit s hs]
  dsimp only
  rw [hdigits]
  dsimp only
  rw [List.length_map]
  by_cases hlong : digitLimit < (sign s).2.length
  · rw [if_pos hlong]
    exact .inl ⟨hlong, rfl⟩
  · rw [if_neg hlong]
    exact .inr ⟨Nat.le_of_not_lt hlong, rfl⟩

end Curly.Reading
