import Curly.Proofs.Number.Reading
import Curly.Proofs.Number.Shortest

/-!
Digits and a power of ten are read as the number that their value rounds to. The exponents that are
decided without the power are so far outside of the range of the format that they make no
difference.
-/

namespace Curly

open Reading

/-- Zero rounds to zero. -/
theorem RoundsTo.zero : RoundsTo 0 0 (-1074) := by
  refine ⟨by norm_num, le_rfl, .inr rfl, Decimal.isNear_iff.2 ⟨?_, ?_, fun _ => rfl⟩⟩
  · simp
  · positivity

/-- The shortest decimal of a number rounds to it. -/
theorem RoundsTo.shortest {v : Rat} {m : Nat} {e : Int} (h : RoundsTo v m e) :
    RoundsTo (Decimal.shortest m e).toRat m e := by
  obtain rfl | hpos := Nat.eq_zero_or_pos m
  · have he : e = -1074 := h.leading.resolve_left (by norm_num)
    rw [he, Decimal.toRat_eq]
    simpa [Decimal.shortest] using RoundsTo.zero
  · exact ⟨h.lt, h.le, h.leading, Decimal.isNear_shortest hpos h.lt⟩

/-- The powers of ten at which exponents are decided are beyond those of the format. -/
theorem two_zpow_le_ten_zpow : (2 : Rat) ^ (1200 : Int) ≤ 10 ^ (400 : Int) := by
  have hpow : (2 : Rat) ^ (1200 : Int) = (2 ^ (3 : Int)) ^ (400 : Int) := by rw [← zpow_mul]; rfl
  rw [hpow]
  exact zpow_le_zpow_left₀ (by norm_num) (by positivity) (by norm_num)

/-- Less than half of the least number rounds to zero. -/
theorem RoundsTo.of_lt {v : Rat} (hv : 0 ≤ v) (hlt : v < 10 ^ (-400 : Int)) :
    RoundsTo v 0 (-1074) := by
  refine ⟨by norm_num, le_rfl, .inr rfl, Decimal.isNear_iff.2 ⟨?_, ?_, fun _ => rfl⟩⟩
  · simpa using hv
  · have hten : (10 : Rat) ^ (-400 : Int) ≤ 2 ^ (-1200 : Int) := by
      rw [zpow_neg, zpow_neg]
      exact inv_anti₀ (by positivity) two_zpow_le_ten_zpow
    have htwo : (2 : Rat) ^ (-1200 : Int) ≤ 2 ^ (-1074 - 2 : Int) :=
      zpow_le_zpow_right₀ (by norm_num) (by norm_num)
    have hunit : (0 : Rat) < 2 ^ (-1074 - 2 : Int) := by positivity
    calc v
      _ ≤ 2 ^ (-1074 - 2 : Int) := (hlt.le.trans hten).trans htwo
      _ ≤ ((4 * 0 + 2 : Nat) : Rat) * 2 ^ (-1074 - 2 : Int) :=
        le_mul_of_one_le_left hunit.le (by norm_num)

theorem overflowBound_le : overflowBound ≤ 10 ^ (400 : Int) := by
  refine le_trans ?_ two_zpow_le_ten_zpow
  have hsplit : (2 : Rat) ^ (1200 : Int) = 2 ^ (230 : Int) * 2 ^ (970 : Int) := by
    rw [← zpow_add₀ (by norm_num)]
    rfl
  rw [overflowBound, hsplit]
  refine mul_le_mul_of_nonneg_right ?_ (by positivity)
  norm_num

namespace Reading

theorem natOf_eq (ds : List Char) : natOf ds = Nat.ofDigitChars 10 ds 0 := rfl

/-- The first digit counts for the power of ten behind it. -/
theorem natOf_cons (c : Char) (ds : List Char) :
    natOf (c :: ds) = 10 ^ ds.length * (c.toNat - 48) + natOf ds := by
  have hzero : '0'.toNat = 48 := rfl
  rw [natOf_eq, natOf_eq, Nat.ofDigitChars_cons, Nat.ofDigitChars_eq_ofDigitChars_zero,
    Nat.mul_zero, Nat.zero_add, hzero]

theorem natOf_append (ds es : List Char) :
    natOf (ds ++ es) = 10 ^ es.length * natOf ds + natOf es := by
  rw [natOf_eq, natOf_eq, natOf_eq, Nat.ofDigitChars_append,
    Nat.ofDigitChars_eq_ofDigitChars_zero]

/-- Zeros in front of digits tell nothing. -/
theorem natOf_dropWhile (ds : List Char) : natOf (ds.dropWhile (· == '0')) = natOf ds := by
  induction ds with
  | nil => rfl
  | cons c ds ih =>
      rw [List.dropWhile_cons]
      split_ifs with hc
      · rw [ih, natOf_cons, beq_iff_eq.1 hc]
        simp
      · rfl

/-- Without zeros in front, digits write a number that is as large as their count tells. -/
theorem pow_length_le_natOf {ds : List Char} (hds : ∀ c ∈ ds, c.isDigit = true) (hne : ds ≠ [])
    (hhead : ∀ c ∈ ds.head?, c ≠ '0') : 10 ^ (ds.length - 1) ≤ natOf ds := by
  obtain ⟨c, ds, rfl⟩ := List.exists_cons_of_ne_nil hne
  have hdigit : 48 ≤ c.toNat := (Char.isDigit_iff_toNat.1 (hds c List.mem_cons_self)).1
  have hc : c.toNat ≠ 48 := fun h => hhead c rfl (Char.toNat_inj.1 h)
  rw [natOf_cons, List.length_cons, Nat.add_sub_cancel]
  exact (Nat.le_mul_of_pos_right _ (by omega)).trans (Nat.le_add_right _ _)

/-- With a power of ten behind them, they are at least the power at the first of them. -/
theorem zpow_le_natOf_mul {ds : List Char} (hds : ∀ c ∈ ds, c.isDigit = true) (hne : ds ≠ [])
    (hhead : ∀ c ∈ ds.head?, c ≠ '0') (p : Int) :
    (10 : Rat) ^ ((ds.length : Int) - 1 + p) ≤ natOf ds * 10 ^ p := by
  have hlow := pow_length_le_natOf hds hne hhead
  have hlength : 0 < ds.length := List.length_pos_iff.2 hne
  have hexp : (ds.length : Int) - 1 + p = ((ds.length - 1 : Nat) : Int) + p := by omega
  calc (10 : Rat) ^ ((ds.length : Int) - 1 + p)
    _ = ((10 ^ (ds.length - 1) : Nat) : Rat) * 10 ^ p := by
      rw [hexp, zpow_add₀ (by norm_num), zpow_natCast]
      push_cast
      rfl
    _ ≤ natOf ds * 10 ^ p := mul_le_mul_of_nonneg_right (Nat.cast_le.2 hlow) (by positivity)

/-- Digits are below the power of ten in front of the first of them. -/
theorem natOf_mul_lt {ds : List Char} (hds : ∀ c ∈ ds, c.isDigit = true) (p : Int) :
    (natOf ds : Rat) * 10 ^ p < 10 ^ ((ds.length : Int) + p) := by
  have hhigh : natOf ds < 10 ^ ds.length := natOf_lt hds le_rfl
  calc (natOf ds : Rat) * 10 ^ p
    _ < ((10 ^ ds.length : Nat) : Rat) * 10 ^ p :=
      mul_lt_mul_of_pos_right (Nat.cast_lt.2 hhigh) (by positivity)
    _ = 10 ^ ((ds.length : Int) + p) := by
      rw [zpow_add₀ (by norm_num), zpow_natCast]
      push_cast
      rfl

/-- **Digits and a power of ten are read as what their value rounds to.** -/
theorem scaled_of_roundsTo (negative : Bool) {ds : List Char} (hds : ∀ c ∈ ds, c.isDigit = true)
    {p : Int} {m : Nat} {e : Int} (h : RoundsTo (natOf ds * 10 ^ p) m e) :
    scaled negative ds p = Double.bounded negative m e := by
  have hdigits : ∀ c ∈ ds.dropWhile (· == '0'), c.isDigit = true :=
    fun c hc => hds c (List.dropWhile_subset _ hc)
  have hhead : ∀ c ∈ (ds.dropWhile (· == '0')).head?, c ≠ '0' := by
    intro c hc
    have hnot := List.head?_dropWhile_not (· == '0') ds
    rw [Option.mem_def.1 hc] at hnot
    simpa using hnot
  rw [← natOf_dropWhile] at h
  rw [scaled]
  generalize ds.dropWhile (· == '0') = ds at *
  by_cases hnil : ds = []
  · subst hnil
    have hzero : RoundsTo 0 m e := by simpa [natOf] using h
    obtain ⟨rfl, rfl⟩ := hzero.unique .zero
    rfl
  have hpos : 0 < natOf ds :=
    lt_of_lt_of_le (by positivity) (pow_length_le_natOf hdigits hnil hhead)
  have hvalue : (0 : Rat) < natOf ds * 10 ^ p := mul_pos (Nat.cast_pos.2 hpos) (by positivity)
  have hpower : 0 < Nat.pow 10 p.natAbs := Nat.pow_pos (by decide)
  rw [if_neg (by simpa using hnil)]
  split_ifs with hlarge hsmall hneg
  · -- too large: the power of ten at the first digit is beyond the format
    have hpow : (10 : Rat) ^ (400 : Int) ≤ 10 ^ ((ds.length : Int) - 1 + p) :=
      zpow_le_zpow_right₀ (by norm_num) (by omega)
    have hbound : overflowBound ≤ natOf ds * 10 ^ p :=
      (overflowBound_le.trans hpow).trans (zpow_le_natOf_mul hdigits hnil hhead p)
    rw [Double.bounded, if_pos (h.overflows_iff.2 hbound)]
  · -- too small: the power of ten in front of the first digit is
    have hlt : (natOf ds : Rat) * 10 ^ p < 10 ^ (-400 : Int) :=
      (natOf_mul_lt hdigits p).trans_le (zpow_le_zpow_right₀ (by norm_num) hsmall.le)
    obtain ⟨rfl, rfl⟩ := h.unique (.of_lt hvalue.le hlt)
    rfl
  · refine Double.ofQuotient_of_roundsTo negative hpos.ne' hpower.ne' ?_
    have hp : p = -(p.natAbs : Int) := by omega
    rw [hp, zpow_neg, zpow_natCast] at h
    rw [div_eq_mul_inv]
    exact_mod_cast h
  · refine Double.ofQuotient_of_roundsTo negative (Nat.mul_pos hpos hpower).ne' one_ne_zero ?_
    have hp : p = (p.natAbs : Int) := by omega
    rw [hp, zpow_natCast] at h
    rw [Nat.cast_one, div_one]
    exact_mod_cast h

end Reading

end Curly
