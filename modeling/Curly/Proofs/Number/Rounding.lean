import Curly.Number.Decimal
import Curly.Number.Double
import Mathlib.Algebra.Order.Field.Power
import Mathlib.Algebra.Order.Field.Rat
import Mathlib.Algebra.Order.Ring.Abs
import Mathlib.Data.Rat.Cast.Order
import Mathlib.Tactic.FieldSimp
import Mathlib.Tactic.Linarith
import Mathlib.Tactic.NormNum
import Mathlib.Tactic.Positivity
import Mathlib.Tactic.Ring

/-!
Rounding to the format. A rational rounds to the mantissa and the exponent in whose interval it
lies, and it lies in one such interval only (`RoundsTo.unique`), so what a quotient is rounded to
depends on its value alone (`Double.ofQuotient_of_roundsTo`).

How large the numbers of the format are: a whole number that is one of them is below a power of two,
which the greatest mantissa and the greatest exponent tell.
-/

namespace Curly

/-! ## Powers -/

theorem twoPow_of_nonneg {e : Int} (he : 0 ≤ e) : twoPow e = ((2 ^ e.natAbs : Nat) : Rat) := by
  rw [twoPow, if_neg (Int.not_lt.2 he)]
  rfl

theorem twoPow_nonneg (e : Int) : 0 ≤ twoPow e := by
  rw [twoPow]
  split
  · rw [Rat.mkRat_eq_div]
    positivity
  · positivity

theorem twoPow_le {e : Int} {k : Nat} (he : e ≤ k) : twoPow e ≤ ((2 ^ k : Nat) : Rat) := by
  obtain hneg | hpos := Int.lt_or_le e 0
  · have hone : twoPow e ≤ 1 := by
      rw [twoPow, if_pos hneg, Rat.mkRat_eq_div, Int.cast_one]
      have hpow : (1 : Rat) ≤ (Nat.pow 2 e.natAbs : Nat) := by
        exact_mod_cast Nat.one_le_two_pow
      exact div_le_one_of_le₀ hpow (by positivity)
    exact hone.trans (by exact_mod_cast Nat.one_le_two_pow)
  · rw [twoPow_of_nonneg hpos]
    have hle : e.natAbs ≤ k := by omega
    exact_mod_cast Nat.pow_le_pow_right (by decide) hle

/-- A power is a fraction where its exponent is negative. -/
theorem pow_natAbs_eq_zpow (b : Nat) (e : Int) :
    (if e < 0 then mkRat 1 (Nat.pow b e.natAbs) else (Nat.pow b e.natAbs : Nat)) =
      (b : Rat) ^ e := by
  split
  · have he : e = -(e.natAbs : Int) := by omega
    rw [Rat.mkRat_eq_div, he, zpow_neg, zpow_natCast, Int.natAbs_neg, Int.natAbs_natCast]
    push_cast [Nat.pow_eq]
    rw [one_div]
  · have he : e = (e.natAbs : Int) := by omega
    conv_rhs => rw [he, zpow_natCast]
    push_cast [Nat.pow_eq]
    rfl

theorem twoPow_eq_zpow (e : Int) : twoPow e = (2 : Rat) ^ e := pow_natAbs_eq_zpow 2 e

theorem tenPow_eq_zpow (e : Int) : tenPow e = (10 : Rat) ^ e := pow_natAbs_eq_zpow 10 e

theorem two_zpow_eq (e : Int) : (2 : Rat) ^ e = 2 * 2 ^ (e - 1) := by
  rw [mul_comm, ← zpow_add_one₀ (by norm_num), sub_add_cancel]

/-! ## Whole numbers -/

/-- A whole number with a mantissa and an exponent that are bounded. -/
theorem Double.natAbs_num_le {negative : Bool} {m width greatest : Nat} {e : Int} {q : Rat}
    (hm : m ≤ 2 ^ width) (he : e ≤ greatest)
    (hq : (Double.finite negative m e).toRat? = some q) (hden : q.den = 1) :
    q.num.natAbs ≤ 2 ^ (width + greatest) := by
  have hvalue : (if negative then -1 else 1) * m * twoPow e = q := Option.some.inj hq
  have hnum : (q.num : Rat) = q := by
    conv_rhs => rw [← Rat.num_div_den q, hden, Nat.cast_one, div_one]
  have habs : |q| = m * twoPow e := by
    rw [← hvalue, abs_mul, abs_mul, Nat.abs_cast, abs_of_nonneg (twoPow_nonneg e)]
    cases negative <;> simp
  have hle : |q| ≤ ((2 ^ width : Nat) : Rat) * ((2 ^ greatest : Nat) : Rat) := by
    rw [habs]
    exact mul_le_mul (Nat.cast_le.2 hm) (twoPow_le he) (twoPow_nonneg e) (by positivity)
  have hcast : ((q.num.natAbs : Nat) : Rat) ≤ ((2 ^ width * 2 ^ greatest : Nat) : Rat) := by
    rw [Nat.cast_natAbs, Int.cast_abs, hnum, Nat.cast_mul]
    exact hle
  rw [Nat.pow_add]
  exact Nat.cast_le.1 hcast

/-! ## The nearest natural number -/

/-- The rounded quotient is at most a half away, and even if it is a half away. -/
theorem roundHalfEven_spec (n : Nat) {d : Nat} (hd : 0 < d) :
    2 * (roundHalfEven n d * d) ≤ 2 * n + d ∧ 2 * n ≤ 2 * (roundHalfEven n d * d) + d ∧
      (2 * (roundHalfEven n d * d) = 2 * n + d ∨ 2 * n = 2 * (roundHalfEven n d * d) + d →
        roundHalfEven n d % 2 = 0) := by
  have hdiv : d * (n / d) + n % d = n := Nat.div_add_mod n d
  have hmod : n % d < d := Nat.mod_lt n hd
  rw [Nat.mul_comm] at hdiv
  have hsucc : (n / d + 1) * d = n / d * d + d := Nat.succ_mul _ _
  rw [roundHalfEven]
  -- With variables for the quotient and the remainder, all that is left is linear.
  generalize n / d = q at *
  generalize n % d = r at *
  split_ifs with hbelow habove heven
  · exact ⟨by omega, by omega, by omega⟩
  · rw [hsucc]
    exact ⟨by omega, by omega, by omega⟩
  · exact ⟨by omega, by omega, fun _ => heven⟩
  · rw [hsucc]
    exact ⟨by omega, by omega, by omega⟩

/-! ## Intervals -/

/-- Whether a rational lies in the interval of the numbers that are nearest to `m * 2 ^ e`. -/
def Decimal.IsNear (v : Rat) (m : Nat) (e : Int) : Prop :=
  let (lo, hi, closed) := Decimal.interval m e
  if closed then lo ≤ v ∧ v ≤ hi else lo < v ∧ v < hi

/-- What a rational rounds to: a mantissa and an exponent of the format, in whose interval it lies.
The mantissa has its leading bit, unless the exponent is the least one. The exponent may be too
large for the format. -/
structure RoundsTo (v : Rat) (m : Nat) (e : Int) : Prop where
  lt : m < 2 ^ 53
  le : -1074 ≤ e
  leading : 2 ^ 52 ≤ m ∨ e = -1074
  isNear : Decimal.IsNear v m e

/-- How far the interval reaches below, in quarters of the last place. -/
def lowQuarters (m : Nat) (e : Int) : Nat := if m = 2 ^ 52 ∧ -1074 < e then 1 else 2

/-- An interval in quarters of the last place. Its ends belong to it if the mantissa is even. -/
theorem Decimal.isNear_iff {v : Rat} {m : Nat} {e : Int} :
    Decimal.IsNear v m e ↔
      ((4 * m - lowQuarters m e : Nat) : Rat) * 2 ^ (e - 2) ≤ v ∧
        v ≤ ((4 * m + 2 : Nat) : Rat) * 2 ^ (e - 2) ∧
        (v = ((4 * m - lowQuarters m e : Nat) : Rat) * 2 ^ (e - 2) ∨
          v = ((4 * m + 2 : Nat) : Rat) * 2 ^ (e - 2) → m % 2 = 0) := by
  have hlow : (if m = Nat.pow 2 52 ∧ -1074 < e then 1 else 2) = lowQuarters m e := rfl
  rw [IsNear, interval, hlow, twoPow_eq_zpow]
  dsimp only
  generalize ((4 * m - lowQuarters m e : Nat) : Rat) * 2 ^ (e - 2) = lo
  generalize ((4 * m + 2 : Nat) : Rat) * 2 ^ (e - 2) = hi
  -- The interval of an even mantissa is closed; that of an odd one lacks its ends.
  by_cases heven : m % 2 = 0
  · simp [heven]
  · simp only [beq_iff_eq, heven, if_false, imp_false, not_or]
    constructor
    · rintro ⟨hlo, hhi⟩
      exact ⟨hlo.le, hhi.le, hlo.ne', hhi.ne⟩
    · rintro ⟨hlo, hhi, hne_lo, hne_hi⟩
      exact ⟨lt_of_le_of_ne hlo (Ne.symm hne_lo), lt_of_le_of_ne hhi hne_hi⟩

namespace RoundsTo

variable {v : Rat} {m m' : Nat} {e e' : Int}

/-- Where the rationals begin that are rounded with an exponent that is not the least. -/
theorem le_of_lt_exponent (h : RoundsTo v m e) (he : -1074 < e) :
    ((2 ^ 54 - 1 : Nat) : Rat) * 2 ^ (e - 2) ≤ v := by
  obtain ⟨hlo, -, -⟩ := Decimal.isNear_iff.1 h.isNear
  have hm := h.leading.resolve_right he.ne'
  have hlow : 2 ^ 54 - 1 ≤ 4 * m - lowQuarters m e := by
    rw [lowQuarters]
    split_ifs <;> omega
  refine le_trans (mul_le_mul_of_nonneg_right ?_ (by positivity)) hlo
  exact Nat.cast_le.2 hlow

/-- Rationals that are rounded with a smaller exponent are below: the upper end of the greatest
mantissa does not belong to its interval, for it is odd. -/
theorem lt_of_exponent_lt (h : RoundsTo v m e) {k : Int} (hk : e < k) :
    v < ((2 ^ 54 - 1 : Nat) : Rat) * 2 ^ (k - 2) := by
  obtain ⟨-, hhi, htie⟩ := Decimal.isNear_iff.1 h.isNear
  have hm := h.lt
  have hpos : (0 : Rat) < 2 ^ (e - 2) := by positivity
  have hpow : (2 : Rat) * 2 ^ (e - 2) ≤ 2 ^ (k - 2) := by
    rw [mul_comm, ← zpow_add_one₀ (by norm_num)]
    exact zpow_le_zpow_right₀ (by norm_num) (by omega)
  have hbound : (((2 ^ 54 - 1) * 2 : Nat) : Rat) * 2 ^ (e - 2) ≤
      ((2 ^ 54 - 1 : Nat) : Rat) * 2 ^ (k - 2) := by
    rw [Nat.cast_mul, mul_assoc]
    exact mul_le_mul_of_nonneg_left hpow (by positivity)
  have hcast : ((4 * m + 2 : Nat) : Rat) ≤ (((2 ^ 54 - 1) * 2 : Nat) : Rat) :=
    Nat.cast_le.2 (by omega)
  refine lt_of_lt_of_le ?_ hbound
  obtain hlt | heq := hhi.lt_or_eq
  · exact hlt.trans_le (mul_le_mul_of_nonneg_right hcast hpos.le)
  · -- at the end itself the mantissa is even, and so not the greatest
    have heven := htie (.inr heq)
    rw [heq]
    exact mul_lt_mul_of_pos_right (Nat.cast_lt.2 (by omega)) hpos

/-- No rational rounds to numbers of two exponents. -/
theorem le_of_roundsTo (h : RoundsTo v m e) (h' : RoundsTo v m' e') : e' ≤ e := by
  by_contra hlt
  rw [Int.not_le] at hlt
  have hle := h.le
  exact absurd (h.lt_of_exponent_lt hlt) (not_lt.2 (h'.le_of_lt_exponent (by omega)))

/-- A rational rounds to one number only. -/
theorem unique (h : RoundsTo v m e) (h' : RoundsTo v m' e') : m = m' ∧ e = e' := by
  obtain rfl : e = e' := le_antisymm (h'.le_of_roundsTo h) (h.le_of_roundsTo h')
  refine ⟨?_, rfl⟩
  have hpos : (0 : Rat) < 2 ^ (e - 2) := by positivity
  -- the upper end of one interval is at most the lower end of the next
  have hlt {k k' : Nat} (hk : RoundsTo v k e) (hk' : RoundsTo v k' e) : ¬k < k' := by
    intro hlt
    obtain ⟨-, hhi, htie⟩ := Decimal.isNear_iff.1 hk.isNear
    obtain ⟨hlo', -, htie'⟩ := Decimal.isNear_iff.1 hk'.isNear
    have hle := Nat.cast_le.1 (le_of_mul_le_mul_right (hlo'.trans hhi) hpos)
    have hlow : lowQuarters k' e ≤ 2 := by
      rw [lowQuarters]
      split_ifs <;> omega
    have hends : 4 * k' - lowQuarters k' e = 4 * k + 2 := by omega
    rw [hends] at hlo' htie'
    have hodd := htie (.inr (le_antisymm hhi hlo'))
    have hodd' := htie' (.inl (le_antisymm hhi hlo'))
    omega
  exact Nat.le_antisymm (Nat.not_lt.1 (hlt h' h)) (Nat.not_lt.1 (hlt h h'))

end RoundsTo

/-! ## Quotients -/

namespace Double

/-- A quotient in units of a power of two, as a numerator and a denominator. -/
def shifted (num den : Nat) (e : Int) : Nat × Nat :=
  if e < 0 then (num <<< e.natAbs, den) else (num, den <<< e.natAbs)

/-- The exponent of a quotient, or one more. -/
def guess (num den : Nat) : Int := (num.log2 : Int) - den.log2 - 52

/-- The exponent with which a quotient is rounded. -/
def roundingExponent (num den : Nat) : Int :=
  let (n, d) := shifted num den (guess num den)
  max (if n / d < Nat.pow 2 52 then guess num den - 1 else guess num den) (-1074)

/-- The mantissa of a quotient, which may be one too many. -/
def roundedMantissa (num den : Nat) : Nat :=
  let (n, d) := shifted num den (roundingExponent num den)
  roundHalfEven n d

/-- A finite number, if the exponent is not too large. -/
def bounded (negative : Bool) (m : Nat) (e : Int) : Double :=
  if 971 < e then .infinite negative else .finite negative m e

theorem ofQuotient_eq (negative : Bool) {num den : Nat} (hnum : num ≠ 0) :
    ofQuotient negative num den =
      if roundedMantissa num den = 2 ^ 53 then
        bounded negative (2 ^ 52) (roundingExponent num den + 1)
      else bounded negative (roundedMantissa num den) (roundingExponent num den) := by
  obtain ⟨p, hp⟩ : ∃ p : Nat × Int, p =
      if roundedMantissa num den = Nat.pow 2 53 then (Nat.pow 2 52, roundingExponent num den + 1)
      else (roundedMantissa num den, roundingExponent num den) := ⟨_, rfl⟩
  have hbounded : ofQuotient negative num den = bounded negative p.1 p.2 := by
    rw [ofQuotient, if_neg hnum, hp]
    rfl
  rw [hbounded, hp]
  by_cases hm : roundedMantissa num den = 2 ^ 53
  · rw [if_pos hm, if_pos (show _ = Nat.pow 2 53 from hm)]
    rfl
  · rw [if_neg hm, if_neg (show ¬_ = Nat.pow 2 53 from hm)]

theorem shifted_spec (num : Nat) {den : Nat} (hden : 0 < den) (e : Int) :
    0 < (shifted num den e).2 ∧
      ((shifted num den e).1 : Rat) / ((shifted num den e).2 : Nat) = num / den / 2 ^ e := by
  -- A negative exponent goes to the numerator, any other one to the denominator.
  obtain hneg | hpos := Int.lt_or_le e 0
  · rw [shifted, if_pos hneg]
    refine ⟨hden, ?_⟩
    have he : e = -(e.natAbs : Int) := by omega
    rw [he, zpow_neg, zpow_natCast, Int.natAbs_neg, Int.natAbs_natCast, Nat.shiftLeft_eq]
    push_cast
    field_simp
  · rw [shifted, if_neg (Int.not_lt.2 hpos)]
    refine ⟨?_, ?_⟩
    · rw [Nat.shiftLeft_eq]
      positivity
    · conv_rhs => rw [← Int.natAbs_of_nonneg hpos, zpow_natCast]
      rw [Nat.shiftLeft_eq]
      push_cast
      field_simp

/-- The guess is right, or one too many. -/
theorem guess_spec {num den : Nat} (hnum : num ≠ 0) (hden : den ≠ 0) :
    (2 : Rat) ^ 51 * 2 ^ guess num den < num / den ∧
      (num / den : Rat) < 2 ^ 53 * 2 ^ guess num den := by
  have hpos : (0 : Rat) < den := by positivity
  have hnum_le : (2 : Rat) ^ num.log2 ≤ num := by exact_mod_cast Nat.log2_self_le hnum
  have hnum_lt : (num : Rat) < 2 ^ num.log2 * 2 := by exact_mod_cast Nat.lt_log2_self
  have hden_le : (2 : Rat) ^ den.log2 ≤ den := by exact_mod_cast Nat.log2_self_le hden
  have hden_lt : (den : Rat) < 2 ^ den.log2 * 2 := by exact_mod_cast Nat.lt_log2_self
  -- the logarithms of both are rounded down, which is off by less than a factor of two each way
  have hguess : (2 : Rat) ^ guess num den = 2 ^ num.log2 / 2 ^ den.log2 / 2 ^ 52 := by
    rw [guess, zpow_sub₀ (by norm_num), zpow_sub₀ (by norm_num), zpow_natCast, zpow_natCast]
    rfl
  rw [hguess]
  constructor
  · calc (2 : Rat) ^ 51 * (2 ^ num.log2 / 2 ^ den.log2 / 2 ^ 52)
      _ = 2 ^ num.log2 / (2 ^ den.log2 * 2) := by field_simp
      _ < num / den := div_lt_div₀' hnum_le hden_lt (by positivity) hpos
  · calc (num / den : Rat)
      _ < 2 ^ num.log2 * 2 / 2 ^ den.log2 :=
        div_lt_div₀ hnum_lt hden_le (by positivity) (by positivity)
      _ = 2 ^ 53 * (2 ^ num.log2 / 2 ^ den.log2 / 2 ^ 52) := by field_simp

/-- With its exponent a quotient has at most 53 binary digits, and no fewer unless the exponent is
the least one. -/
theorem roundingExponent_spec {num den : Nat} (hnum : num ≠ 0) (hden : den ≠ 0) :
    -1074 ≤ roundingExponent num den ∧
      (num / den : Rat) < 2 ^ 53 * 2 ^ roundingExponent num den ∧
      (2 ^ 52 * 2 ^ roundingExponent num den ≤ (num / den : Rat) ∨
        roundingExponent num den = -1074) := by
  obtain ⟨hlo, hhi⟩ := guess_spec hnum hden
  obtain ⟨hpos, hvalue⟩ := shifted_spec num (Nat.pos_of_ne_zero hden) (guess num den)
  rw [roundingExponent]
  generalize guess num den = g at *
  generalize shifted num den g = nd at *
  obtain ⟨n, d⟩ := nd
  dsimp only at *
  have hunit : (0 : Rat) < 2 ^ g := by positivity
  have hd : (0 : Rat) < d := Nat.cast_pos.2 hpos
  -- the exponent `g'` is that of the quotient, whether or not the format has it
  obtain ⟨g', hg', hlo', hhi'⟩ : ∃ g', (if n / d < Nat.pow 2 52 then g - 1 else g) = g' ∧
      (2 : Rat) ^ 52 * 2 ^ g' ≤ num / den ∧ (num / den : Rat) < 2 ^ 53 * 2 ^ g' := by
    refine ⟨_, rfl, ?_⟩
    rw [eq_div_iff hunit.ne'] at hvalue
    split_ifs with hsmall
    · have hlt : (n / d : Rat) < 2 ^ 52 := by
        rw [div_lt_iff₀ hd]
        exact_mod_cast (Nat.div_lt_iff_lt_mul hpos).1 hsmall
      have hv : (num / den : Rat) < 2 ^ 52 * 2 ^ g := by
        rw [← hvalue]
        exact mul_lt_mul_of_pos_right hlt hunit
      rw [two_zpow_eq] at hlo hv
      exact ⟨by linarith, by linarith⟩
    · have hle : (2 : Rat) ^ 52 ≤ n / d := by
        rw [le_div_iff₀ hd]
        exact_mod_cast (Nat.le_div_iff_mul_le hpos).1 (Nat.le_of_not_lt hsmall)
      refine ⟨?_, hhi⟩
      rw [← hvalue]
      exact mul_le_mul_of_nonneg_right hle hunit.le
  rw [hg']
  refine ⟨le_max_right _ _, ?_, ?_⟩
  · refine hhi'.trans_le (mul_le_mul_of_nonneg_left ?_ (by norm_num))
    exact zpow_le_zpow_right₀ (by norm_num) (le_max_left _ _)
  · obtain hle | hge := le_total g' (-1074)
    · exact .inr (max_eq_right hle)
    · rw [max_eq_left hge]
      exact .inl hlo'

/-- Whether a rational is at most a half of the last place away from `m * 2 ^ e`, and a half only if
the mantissa is even. -/
structure IsRounded (v : Rat) (m : Nat) (e : Int) : Prop where
  lower : (2 * m - 1) * 2 ^ (e - 1) ≤ v
  upper : v ≤ (2 * m + 1) * 2 ^ (e - 1)
  tie : v = (2 * m - 1) * 2 ^ (e - 1) ∨ v = (2 * m + 1) * 2 ^ (e - 1) → m % 2 = 0

theorem roundedMantissa_spec (num : Nat) {den : Nat} (hden : den ≠ 0) :
    IsRounded (num / den) (roundedMantissa num den) (roundingExponent num den) := by
  obtain ⟨hpos, hvalue⟩ :=
    shifted_spec num (Nat.pos_of_ne_zero hden) (roundingExponent num den)
  rw [roundedMantissa]
  generalize roundingExponent num den = e at *
  generalize shifted num den e = nd at *
  obtain ⟨n, d⟩ := nd
  dsimp only at *
  obtain ⟨hlo, hhi, htie⟩ := roundHalfEven_spec n hpos
  generalize roundHalfEven n d = m at *
  have hd : (0 : Rat) < d := Nat.cast_pos.2 hpos
  have hunit : (0 : Rat) < 2 ^ (e - 1) := by positivity
  -- in units of half a step, the value is the double of the fraction that is rounded
  have hv : (num / den : Rat) = 2 * n / d * 2 ^ (e - 1) := by
    rw [eq_div_iff (by positivity), two_zpow_eq] at hvalue
    rw [← hvalue]
    ring
  have hlo' : (2 * (m * d) : Rat) ≤ 2 * n + d := by exact_mod_cast hlo
  have hhi' : (2 * n : Rat) ≤ 2 * (m * d) + d := by exact_mod_cast hhi
  rw [hv]
  refine ⟨?_, ?_, ?_⟩
  · refine mul_le_mul_of_nonneg_right ?_ hunit.le
    rw [le_div_iff₀ hd]
    linarith
  · refine mul_le_mul_of_nonneg_right ?_ hunit.le
    rw [div_le_iff₀ hd]
    linarith
  · -- at an end of the interval the fraction lies halfway, where the even neighbour is taken
    intro h
    apply htie
    refine h.imp (fun hend => ?_) fun hend => ?_
    · have heq := mul_right_cancel₀ hunit.ne' hend
      rw [div_eq_iff hd.ne'] at heq
      have hcast : (2 * (m * d) : Rat) = 2 * n + d := by linarith
      exact_mod_cast hcast
    · have heq := mul_right_cancel₀ hunit.ne' hend
      rw [div_eq_iff hd.ne'] at heq
      have hcast : (2 * n : Rat) = 2 * (m * d) + d := by linarith
      exact_mod_cast hcast

namespace IsRounded

variable {v : Rat} {m : Nat} {e : Int}

/-- What has 53 binary digits is rounded to no more, but for a carry. -/
theorem le (h : IsRounded v m e) (hlt : v < 2 ^ 53 * 2 ^ e) : m ≤ 2 ^ 53 := by
  have hunit : (0 : Rat) < 2 ^ (e - 1) := by positivity
  rw [two_zpow_eq] at hlt
  have hmul : (2 * m - 1 : Rat) * 2 ^ (e - 1) < 2 ^ 54 * 2 ^ (e - 1) := by
    refine h.lower.trans_lt (hlt.trans_le (le_of_eq ?_))
    ring
  have hcast : (2 * m - 1 : Rat) < 2 ^ 54 := lt_of_mul_lt_mul_right hmul hunit.le
  have hsucc : (2 * m : Rat) < 2 ^ 54 + 1 := by linarith
  have hnat : 2 * m < 2 ^ 54 + 1 := by exact_mod_cast hsucc
  omega

/-- And to no fewer. -/
theorem ge (h : IsRounded v m e) (hle : 2 ^ 52 * 2 ^ e ≤ v) : 2 ^ 52 ≤ m := by
  have hunit : (0 : Rat) < 2 ^ (e - 1) := by positivity
  rw [two_zpow_eq] at hle
  have hmul : (2 ^ 53 : Rat) * 2 ^ (e - 1) ≤ (2 * m + 1) * 2 ^ (e - 1) := by
    refine le_trans (le_of_eq ?_) (hle.trans h.upper)
    ring
  have hcast : (2 ^ 53 : Rat) ≤ 2 * m + 1 := le_of_mul_le_mul_right hmul hunit
  have hnat : 2 ^ 53 ≤ 2 * m + 1 := by exact_mod_cast hcast
  omega

/-- A carry gives the least mantissa of the next exponent. -/
theorem roundsTo_carry (h : IsRounded v (2 ^ 53) e) (he : -1074 ≤ e) (hlt : v < 2 ^ 53 * 2 ^ e) :
    RoundsTo v (2 ^ 52) (e + 1) := by
  refine ⟨by norm_num, by omega, .inl le_rfl, ?_⟩
  have hlow : lowQuarters (2 ^ 52) (e + 1) = 1 := if_pos ⟨rfl, by omega⟩
  have hexp : e + 1 - 2 = e - 1 := by ring
  rw [two_zpow_eq] at hlt
  rw [Decimal.isNear_iff, hlow, hexp]
  refine ⟨le_trans (le_of_eq ?_) h.lower, hlt.le.trans ?_, fun _ => rfl⟩
  · norm_num
  · rw [← mul_assoc]
    exact mul_le_mul_of_nonneg_right (by norm_num) (by positivity)

/-- Without a carry, a rational lies in the interval of what it is rounded to. -/
theorem isNear (h : IsRounded v m e) (hv : 0 ≤ v) (hleading : 2 ^ 52 * 2 ^ e ≤ v ∨ e = -1074) :
    Decimal.IsNear v m e := by
  have hquarter : (2 : Rat) ^ (e - 1) = 2 * 2 ^ (e - 2) := by
    rw [two_zpow_eq]
    congr 2
    ring
  have hupper : ((4 * m + 2 : Nat) : Rat) * 2 ^ (e - 2) = (2 * m + 1) * 2 ^ (e - 1) := by
    rw [hquarter]
    push_cast
    ring
  rw [Decimal.isNear_iff, hupper]
  by_cases hpower : m = 2 ^ 52 ∧ -1074 < e
  · -- below a power of two the interval ends sooner, but the rational is not below it
    obtain ⟨rfl, he⟩ := hpower
    have hlow : lowQuarters (2 ^ 52) e = 1 := if_pos ⟨rfl, he⟩
    have hv_ge := hleading.resolve_right he.ne'
    rw [hlow]
    refine ⟨le_trans ?_ hv_ge, h.upper, fun _ => rfl⟩
    rw [two_zpow_eq e, hquarter, ← mul_assoc, ← mul_assoc]
    exact mul_le_mul_of_nonneg_right (by norm_num) (by positivity)
  · have hlow : lowQuarters m e = 2 := if_neg hpower
    rw [hlow]
    obtain rfl | hpos := Nat.eq_zero_or_pos m
    · exact ⟨by simpa using hv, h.upper, fun _ => rfl⟩
    · have hlower : ((4 * m - 2 : Nat) : Rat) * 2 ^ (e - 2) = (2 * m - 1) * 2 ^ (e - 1) := by
        rw [hquarter, Nat.cast_sub (by omega)]
        push_cast
        ring
      rw [hlower]
      exact ⟨h.lower, h.upper, h.tie⟩

end IsRounded

/-- **A quotient is rounded to the number in whose interval it lies.** -/
theorem exists_ofQuotient (negative : Bool) {num den : Nat} (hnum : num ≠ 0) (hden : den ≠ 0) :
    ∃ m e, RoundsTo (num / den) m e ∧ ofQuotient negative num den = bounded negative m e := by
  obtain ⟨hleast, hlt, hleading⟩ := roundingExponent_spec hnum hden
  have hrounded := roundedMantissa_spec num hden
  have hv : (0 : Rat) ≤ num / den := by positivity
  rw [ofQuotient_eq negative hnum]
  generalize roundingExponent num den = e at *
  generalize roundedMantissa num den = m at *
  -- Rounded up out of its width, the mantissa carries into the exponent.
  by_cases hm : m = 2 ^ 53
  · rw [if_pos hm]
    subst hm
    exact ⟨2 ^ 52, e + 1, hrounded.roundsTo_carry hleast hlt, rfl⟩
  · rw [if_neg hm]
    have hm_lt : m < 2 ^ 53 := lt_of_le_of_ne (hrounded.le hlt) hm
    exact ⟨m, e, ⟨hm_lt, hleast, hleading.imp hrounded.ge id, hrounded.isNear hv hleading⟩, rfl⟩

/-- What a quotient is rounded to depends on its value alone. -/
theorem ofQuotient_of_roundsTo (negative : Bool) {num den m : Nat} {e : Int} (hnum : num ≠ 0)
    (hden : den ≠ 0) (h : RoundsTo (num / den) m e) :
    ofQuotient negative num den = bounded negative m e := by
  obtain ⟨m', e', h', heq⟩ := exists_ofQuotient negative hnum hden
  obtain ⟨rfl, rfl⟩ := h.unique h'
  exact heq

end Double

/-- Every positive rational is rounded. -/
theorem RoundsTo.exists_of_pos {v : Rat} (hv : 0 < v) : ∃ m e, RoundsTo v m e := by
  have hnum : v.num.natAbs ≠ 0 := by
    rw [Int.natAbs_ne_zero]
    exact (Rat.num_pos.2 hv).ne'
  obtain ⟨m, e, h, -⟩ := Double.exists_ofQuotient false hnum v.den_nz
  refine ⟨m, e, ?_⟩
  have hcast : ((v.num.natAbs : Nat) : Rat) = v.num := by
    rw [Nat.cast_natAbs, abs_of_pos (Rat.num_pos.2 hv)]
  rwa [hcast, Rat.num_div_den] at h

/-! ## Range -/

/-- From here on numbers are too large: half of the last place above the greatest number. -/
def overflowBound : Rat := ((2 ^ 54 - 1 : Nat) : Rat) * 2 ^ (970 : Int)

/-- Rationals are rounded with a larger exponent than the format has from a bound on. -/
theorem RoundsTo.overflows_iff {v : Rat} {m : Nat} {e : Int} (h : RoundsTo v m e) :
    971 < e ↔ overflowBound ≤ v := by
  rw [overflowBound]
  constructor
  · intro he
    refine le_trans (mul_le_mul_of_nonneg_left ?_ (by positivity))
      (h.le_of_lt_exponent (by omega))
    exact zpow_le_zpow_right₀ (by norm_num) (by omega)
  · intro hle
    by_contra he
    exact absurd (h.lt_of_exponent_lt (k := 972) (by omega)) (not_lt.2 hle)

end Curly
