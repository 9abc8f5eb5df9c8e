import Curly.Proofs.Number.Rounding
import Mathlib.Data.Rat.Floor

/-!
The shortest decimal of a number reads back as the number: it lies in the interval of the
rationals that round to it. With seventeen digits one of the two neighbours on the grid always does,
since the grid is finer than the gaps between the numbers of the format.
-/

namespace Curly.Decimal

/-! ## Values -/

theorem toRat_eq (d : Decimal) : d.toRat = d.digits * 10 ^ d.exponent := by
  rw [toRat, tenPow_eq_zpow]

theorem toRat_trimAux (fuel : Nat) (d : Decimal) : (trimAux fuel d).toRat = d.toRat := by
  induction fuel generalizing d with
  | zero => rfl
  | succ fuel ih =>
      rw [trimAux]
      split_ifs with hzero
      · rw [ih, toRat_eq, toRat_eq, zpow_add_one₀ (by norm_num)]
        have hdiv : d.digits / 10 * 10 = d.digits :=
          Nat.div_mul_cancel (Nat.dvd_of_mod_eq_zero hzero)
        have hcast : ((d.digits / 10 : Nat) : Rat) * 10 = d.digits := by exact_mod_cast hdiv
        rw [← hcast]
        ring
      · rfl

/-- Zeros at the end tell nothing of the value. -/
theorem toRat_trim (d : Decimal) : d.trim.toRat = d.toRat := by
  rw [trim]
  split_ifs with hzero
  · rw [toRat_eq, toRat_eq, hzero]
    simp
  · exact toRat_trimAux _ d

/-! ## The leading digit -/

theorem lt_pow_width (n : Nat) : n < 10 ^ width n :=
  (Nat.length_toDigits_le_iff (by decide) (List.length_pos_iff.2 Nat.toDigits_ne_nil)).1 le_rfl

theorem pow_width_le {n : Nat} (hn : 0 < n) : 10 ^ (width n - 1) ≤ n := by
  obtain hone | hmore := Nat.eq_zero_or_pos (width n - 1)
  · rw [hone]
    exact hn
  · by_contra hlt
    have hle := (Nat.length_toDigits_le_iff (by decide) hmore).2 (Nat.not_le.1 hlt)
    rw [width] at hle hmore
    omega

theorem floor_toNat_le {q : Rat} (hq : 0 ≤ q) : ((q.floor.toNat : Nat) : Rat) ≤ q := by
  have hfloor : (0 : Int) ≤ q.floor := Rat.le_floor_iff.2 (by simpa using hq)
  have hcast : ((q.floor.toNat : Int) : Rat) = q.floor := by rw [Int.toNat_of_nonneg hfloor]
  rw [← Int.cast_natCast, hcast]
  exact Rat.floor_le q

theorem lt_floor_toNat (q : Rat) : q < (q.floor.toNat : Nat) + 1 := by
  have hle : (q.floor : Rat) ≤ ((q.floor.toNat : Int) : Rat) := Int.cast_le.2 (Int.self_le_toNat _)
  have hlt := Rat.lt_floor_add_one q
  push_cast at hlt hle
  linarith

/-- A rational from one on is at least the power of ten at its leading digit. -/
theorem pow_width_floor_le {q : Rat} (hq : 1 ≤ q) :
    (10 : Rat) ^ ((width q.floor.toNat : Int) - 1) ≤ q := by
  have hfloor : (1 : Int) ≤ q.floor := Rat.le_floor_iff.2 (by simpa using hq)
  have hpos : 0 < q.floor.toNat := by omega
  have hwidth : 0 < width q.floor.toNat := List.length_pos_iff.2 Nat.toDigits_ne_nil
  have hexp : (width q.floor.toNat : Int) - 1 = ((width q.floor.toNat - 1 : Nat) : Int) := by omega
  have hpow : ((10 ^ (width q.floor.toNat - 1) : Nat) : Rat) ≤ (q.floor.toNat : Nat) :=
    Nat.cast_le.2 (pow_width_le hpos)
  rw [hexp, zpow_natCast]
  push_cast at hpow
  exact hpow.trans (floor_toNat_le (by linarith))

/-- A positive rational is at least the power of ten at its leading digit. -/
theorem pow_leading_le {q : Rat} (hq : 0 < q) : (10 : Rat) ^ (leading q - 1) ≤ q := by
  rw [leading]
  split_ifs with hone
  · exact pow_width_floor_le hone
  · -- the reciprocal is below the power of ten behind its leading digit
    have hlt : 1 / q < 10 ^ width (1 / q).floor.toNat := by
      have hpow : (((1 / q).floor.toNat + 1 : Nat) : Rat) ≤
          ((10 ^ width (1 / q).floor.toNat : Nat) : Rat) := Nat.cast_le.2 (lt_pow_width _)
      push_cast at hpow
      exact (lt_floor_toNat _).trans_le hpow
    have hle : (10 : Rat) ^ (-(width (1 / q).floor.toNat : Int)) ≤ q := by
      rw [zpow_neg, zpow_natCast, inv_le_comm₀ (by positivity) hq, ← one_div]
      exact hlt.le
    have hnot : ¬q < tenPow (-(width (1 / q).floor.toNat : Int)) := by
      rw [tenPow_eq_zpow]
      exact not_lt.2 hle
    rw [if_neg hnot]
    have hexp : (1 - (width (1 / q).floor.toNat : Int)) - 1 =
        -(width (1 / q).floor.toNat : Int) := by
      ring
    rw [hexp]
    exact hle

/-! ## Grids -/

/-- What is strictly between the ends of an interval lies in it. -/
theorem isNear_of_lt {v : Rat} {m : Nat} {e : Int}
    (hlo : ((4 * m - lowQuarters m e : Nat) : Rat) * 2 ^ (e - 2) < v)
    (hhi : v < ((4 * m + 2 : Nat) : Rat) * 2 ^ (e - 2)) : IsNear v m e := by
  rw [isNear_iff]
  refine ⟨hlo.le, hhi.le, ?_⟩
  rintro (rfl | rfl)
  · exact absurd hlo (lt_irrefl _)
  · exact absurd hhi (lt_irrefl _)

theorem upperEnd_eq (m : Nat) (e : Int) :
    ((4 * m + 2 : Nat) : Rat) * 2 ^ (e - 2) = 4 * (m * 2 ^ (e - 2)) + 2 * 2 ^ (e - 2) := by
  push_cast
  ring

theorem lowerEnd_eq {m : Nat} (hm : 0 < m) (e : Int) :
    ((4 * m - lowQuarters m e : Nat) : Rat) * 2 ^ (e - 2) =
      4 * (m * 2 ^ (e - 2)) - lowQuarters m e * 2 ^ (e - 2) := by
  have hle : lowQuarters m e ≤ 4 * m := by
    rw [lowQuarters]
    split_ifs <;> omega
  rw [Nat.cast_sub hle]
  push_cast
  ring

/-- Whether a point of a grid lies in the interval. -/
def isInside (m : Nat) (e k : Int) (n : Nat) : Bool :=
  let (lo, hi, closed) := interval m e
  let x := n * tenPow k
  if closed then lo ≤ x && x ≤ hi else lo < x && x < hi

theorem isInside_iff {m n : Nat} {e k : Int} :
    isInside m e k n = true ↔ IsNear (toRat ⟨n, k⟩) m e := by
  rw [isInside, IsNear, toRat]
  dsimp only
  split_ifs <;> simp

/-- The lower neighbour of a rational on a grid, in units of the grid. -/
def below (q : Rat) (k : Int) : Nat := (q / tenPow k).floor.toNat

/-- The neighbour of a rational that is taken, if the lower one and the upper one may be taken or
may not: of two, the nearer one, and halfway the even one. -/
def neighbour (q : Rat) (k : Int) : Bool → Bool → Option Decimal
  | false, false => none
  | true, false => some ⟨below q k, k⟩
  | false, true => some ⟨below q k + 1, k⟩
  | true, true =>
    if q - below q k * tenPow k < (below q k + 1) * tenPow k - q then some ⟨below q k, k⟩
    else if (below q k + 1) * tenPow k - q < q - below q k * tenPow k then some ⟨below q k + 1, k⟩
    else some ⟨if below q k % 2 = 0 then below q k else below q k + 1, k⟩

theorem onGrid?_eq (q : Rat) (m : Nat) (e k : Int) :
    onGrid? q (interval m e).1 (interval m e).2.1 (interval m e).2.2 k =
      neighbour q k (isInside m e k (below q k)) (isInside m e k (below q k + 1)) := by
  unfold neighbour
  rfl

/-- The neighbour that is taken is one that lies in the interval. -/
theorem onGrid?_spec (q : Rat) (m : Nat) (e k : Int) :
    (∀ d ∈ onGrid? q (interval m e).1 (interval m e).2.1 (interval m e).2.2 k,
      IsNear d.toRat m e) ∧
    (IsNear (toRat ⟨below q k, k⟩) m e ∨ IsNear (toRat ⟨below q k + 1, k⟩) m e →
      (onGrid? q (interval m e).1 (interval m e).2.1 (interval m e).2.2 k).isSome = true) := by
  rw [← isInside_iff, ← isInside_iff, onGrid?_eq]
  -- only the two neighbours are looked at: neither, one or both of them lie in the interval
  cases hlow : isInside m e k (below q k) with
  | false =>
      cases hhigh : isInside m e k (below q k + 1) with
      | false => simp [neighbour]
      | true =>
          rw [isInside_iff] at hhigh
          simp [neighbour, hhigh]
  | true =>
      cases hhigh : isInside m e k (below q k + 1) with
      | false =>
          rw [isInside_iff] at hlow
          simp [neighbour, hlow]
      | true =>
          rw [isInside_iff] at hlow hhigh
          rw [neighbour]
          split_ifs <;> simp [hlow, hhigh]

theorem below_spec {q : Rat} (hq : 0 ≤ q) (k : Int) :
    (below q k : Rat) * 10 ^ k ≤ q ∧ q < (below q k : Rat) * 10 ^ k + 10 ^ k := by
  have hunit : (0 : Rat) < 10 ^ k := by positivity
  rw [below, tenPow_eq_zpow]
  constructor
  · rw [← le_div_iff₀ hunit]
    exact floor_toNat_le (by positivity)
  · have hlt := lt_floor_toNat (q / 10 ^ k)
    rwa [div_lt_iff₀ hunit, add_mul, one_mul] at hlt

/-- A grid of which seventeen digits are needed is finer than the gaps between the numbers. -/
theorem isNear_neighbour {m : Nat} {e : Int} (hpos : 0 < m) (hm : m < 2 ^ 53) {k : Int}
    (hk : (10 : Rat) ^ (k + 16) ≤ m * 2 ^ e) :
    IsNear (toRat ⟨below (m * 2 ^ e) k, k⟩) m e ∨
      IsNear (toRat ⟨below (m * 2 ^ e) k + 1, k⟩) m e := by
  obtain ⟨hbelow, habove⟩ := below_spec (q := m * 2 ^ e) (by positivity) k
  rw [toRat_eq, toRat_eq]
  dsimp only
  generalize (below (m * 2 ^ e) k : Nat) = d at *
  have hgap : (0 : Rat) < 2 ^ (e - 2) := by positivity
  have hq : (m * 2 ^ e : Rat) = 4 * (m * 2 ^ (e - 2)) := by
    have he : (2 : Rat) ^ e = 2 ^ (e - 2) * 2 ^ (2 : Int) := by
      rw [← zpow_add₀ (by norm_num), sub_add_cancel]
    rw [he]
    ring
  have hfine : (10 : Rat) ^ 16 * 10 ^ k ≤ 4 * (m * 2 ^ (e - 2)) := by
    rw [← hq]
    refine le_trans (le_of_eq ?_) hk
    rw [zpow_add₀ (by norm_num), mul_comm]
    rfl
  have hnext : ((d + 1 : Nat) : Rat) * 10 ^ k = d * 10 ^ k + 10 ^ k := by
    push_cast
    ring
  rw [hq] at hbelow habove
  by_cases hpower : m = 2 ^ 52 ∧ -1074 < e
  · -- below a power of two the gap is half as wide, but the neighbour above is in the wider half
    have hone : lowQuarters m e = 1 := if_pos hpower
    right
    have hmantissa : (m * 2 ^ (e - 2) : Rat) = 2 ^ 52 * 2 ^ (e - 2) := by
      rw [hpower.1]
      norm_num
    refine isNear_of_lt ?_ ?_
    · rw [lowerEnd_eq hpos, hone, hnext]
      push_cast
      linarith
    · rw [upperEnd_eq, hnext]
      linarith
  · have htwo : lowQuarters m e = 2 := if_neg hpower
    have hmantissa : (m * 2 ^ (e - 2) : Rat) < 2 ^ 53 * 2 ^ (e - 2) :=
      mul_lt_mul_of_pos_right (by exact_mod_cast hm) hgap
    by_cases hnear : 4 * (m * 2 ^ (e - 2)) - (d * 10 ^ k : Rat) < 2 * 2 ^ (e - 2)
    · left
      refine isNear_of_lt ?_ ?_
      · rw [lowerEnd_eq hpos, htwo]
        push_cast
        linarith
      · rw [upperEnd_eq]
        linarith
    · right
      refine isNear_of_lt ?_ ?_
      · rw [lowerEnd_eq hpos, htwo, hnext]
        push_cast
        linarith
      · rw [upperEnd_eq, hnext]
        linarith

/-- **The shortest decimal lies in the interval of its number.** -/
theorem isNear_shortest {m : Nat} {e : Int} (hpos : 0 < m) (hm : m < 2 ^ 53) :
    IsNear (shortest m e).toRat m e := by
  have hq : (0 : Rat) < m * 2 ^ e := by positivity
  rw [shortest, if_neg hpos.ne', twoPow_eq_zpow]
  have hpow := pow_leading_le hq
  dsimp only
  generalize leading (m * 2 ^ e) = p at *
  split
  · rename_i d hd
    obtain ⟨n, -, hn⟩ := List.exists_of_findSome?_eq_some hd
    rw [toRat_trim]
    exact (onGrid?_spec _ m e _).1 d hn
  · -- The search does not fail, since with seventeen digits a neighbour is near.
    rename_i hnone
    have hsome := (onGrid?_spec (m * 2 ^ e) m e (p - 1 - (16 : Nat))).2
      (isNear_neighbour hpos hm (by simpa using hpow))
    rw [List.findSome?_eq_none_iff] at hnone
    have h16 := hnone 16 (by simp)
    rw [h16] at hsome
    cases hsome

end Curly.Decimal
