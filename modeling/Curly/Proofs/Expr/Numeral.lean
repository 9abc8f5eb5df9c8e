import Curly.Proofs.Expr.Number
import Curly.Proofs.Number.Scaled

/-!
What the numbers of generated code stand for. In every layout the digits and the power of ten of a
decimal are kept, so a finite number is written as a numeral that is read as the same number.
-/

namespace Curly

open Lexeme Reading

namespace Lexeme

/-- The value of a numeral. -/
def Numeral.value (n : Numeral) : Rat := natOf (n.whole ++ n.fraction.getD []) * 10 ^ n.power

/-! ## Layouts -/

theorem natOf_replicate_append (k : Nat) (ds : List Char) :
    natOf (List.replicate k '0' ++ ds) = natOf ds := by
  induction k with
  | zero => rfl
  | succ k ih =>
      rw [List.replicate_succ, List.cons_append, natOf_cons, ih]
      simp

theorem natOf_append_replicate (ds : List Char) (k : Nat) :
    natOf (ds ++ List.replicate k '0') = 10 ^ k * natOf ds := by
  have hzeros : natOf (List.replicate k '0') = 0 := by
    have h := natOf_replicate_append k []
    rwa [List.append_nil] at h
  rw [natOf_append, hzeros, List.length_replicate, Nat.add_zero]

theorem natOf_toDigits (n : Nat) : natOf (Nat.toDigits 10 n) = n := Nat.ofDigitChars_ten_toDigits

theorem natOf_padded (width n : Nat) : natOf (FloatLayout.padded width n) = n := by
  rw [FloatLayout.padded, natOf_replicate_append, natOf_toDigits]

/-- Zeros at the end of the digits count for the power of ten. -/
theorem Numeral.value_eq {n : Numeral} {d : Decimal} (k : Nat)
    (hdigits : natOf (n.whole ++ n.fraction.getD []) = 10 ^ k * d.digits)
    (hpower : n.power + k = d.exponent) : n.value = d.toRat := by
  rw [value, Decimal.toRat_eq, hdigits, ← hpower, zpow_add₀ (by norm_num), zpow_natCast]
  push_cast
  ring

/-- Every layout keeps the value. -/
theorem value_ofDecimal (d : Decimal) : (Numeral.ofDecimal d).value = d.toRat := by
  have hdigits := natOf_toDigits d.digits
  have hne : Nat.toDigits 10 d.digits ≠ [] := Nat.toDigits_ne_nil
  rw [Numeral.ofDecimal]
  generalize Nat.toDigits 10 d.digits = ds at hdigits hne ⊢
  generalize hlead : (ds.length : Int) + d.exponent - 1 = lead
  split
  · split
    · -- a whole number: the zeros and the one behind the point
      rename_i hwhole
      refine Numeral.value_eq (d.exponent.toNat + 1) ?_ ?_
      · have hzeros : ds ++ List.replicate d.exponent.toNat '0' ++ ['0'] =
            ds ++ List.replicate (d.exponent.toNat + 1) '0' := by
          rw [List.append_assoc, List.replicate_succ']
        rw [← hdigits, ← natOf_append_replicate, ← hzeros]
        rfl
      · simp only [Numeral.power, Option.getD_some, List.length_singleton]
        omega
    split
    · rename_i hexponent hamong
      refine Numeral.value_eq 0 ?_ ?_
      · rw [pow_zero, one_mul, ← hdigits, Option.getD_some, List.take_append_drop]
      · simp only [Numeral.power, Option.getD_some, List.length_drop]
        omega
    · rename_i hexponent hfront
      refine Numeral.value_eq 0 ?_ ?_
      · have hzeros : ['0'] ++ (List.replicate (-lead - 1).toNat '0' ++ ds) =
            List.replicate ((-lead - 1).toNat + 1) '0' ++ ds := by
          rw [List.replicate_succ]
          rfl
        rw [pow_zero, one_mul, ← hdigits, Option.getD_some, hzeros, natOf_replicate_append]
      · simp only [Numeral.power, Option.getD_some, List.length_append, List.length_replicate]
        omega
  · obtain ⟨c, cs, rfl⟩ := List.exists_cons_of_ne_nil hne
    have hfraction :
        (if List.drop 1 (c :: cs) = [] then none else some (List.drop 1 (c :: cs))).getD [] =
          cs := by
      cases cs with
      | nil => rfl
      | cons e cs => rfl
    have hexponent : (if decide (lead < 0) = true then
        -(natOf (FloatLayout.padded 2 lead.natAbs) : Int)
        else natOf (FloatLayout.padded 2 lead.natAbs)) = lead := by
      rw [natOf_padded]
      split_ifs with hneg
      · rw [decide_eq_true_eq] at hneg
        omega
      · rw [decide_eq_true_eq] at hneg
        omega
    refine Numeral.value_eq 0 ?_ ?_
    · rw [pow_zero, one_mul, ← hdigits, hfraction]
      rfl
    · simp only [Numeral.power, hfraction, hexponent]
      rw [List.length_cons] at hlead
      omega

theorem isFloat_ofDecimal (d : Decimal) :
    ((Numeral.ofDecimal d).fraction.isSome || (Numeral.ofDecimal d).exponent.isSome) = true := by
  rw [Numeral.ofDecimal]
  split
  · split
    · rfl
    split
    · rfl
    · rfl
  · simp

/-- **A finite number is written as a numeral of it.** -/
theorem literal_ofDecimal {v : Rat} {m : Nat} {e : Int} (h : RoundsTo v m e) (he : e ≤ 971) :
    (Numeral.ofDecimal (Decimal.shortest m e)).literal = .float (.finite false m e) := by
  have hn := isWritten_ofDecimal (Decimal.shortest m e)
  have hround := h.shortest
  rw [← value_ofDecimal, Numeral.value] at hround
  have hdigits : ∀ c ∈ (Numeral.ofDecimal (Decimal.shortest m e)).whole ++
      (Numeral.ofDecimal (Decimal.shortest m e)).fraction.getD [], c.isDigit = true := by
    refine isDigit_of_mem_append hn.isDigit_of_whole ?_
    cases hfraction : (Numeral.ofDecimal (Decimal.shortest m e)).fraction with
    | none => simp
    | some ds => exact hn.isDigit_of_fraction ds hfraction
  rw [Numeral.literal, if_pos (isFloat_ofDecimal _), scaled_of_roundsTo false hdigits hround,
    Double.bounded, if_neg (Int.not_lt.2 he)]

end Lexeme

/-! ## Reading back -/

/-- A number alone is a literal. -/
theorem Parse.whole_number (l : Literal) : (whole 72).run [.number l] = some (.literal l, []) := rfl

/-- A sign and a number are an operation on the literal. -/
theorem Parse.whole_minus_number (l : Literal) :
    (whole 96).run [.op "-", .number l] = some (.unary .minus (.literal l), []) := rfl

/-- **A numeral with or without a sign reads back as its literal.** -/
theorem Expr.ofText?_numeral (negative : Bool) {n : Lexeme.Numeral} (hn : n.IsWritten) :
    Expr.ofText? ((if negative then ['-'] else []) ++ n.code) =
      some (Term.signed negative (.literal n.literal)) := by
  cases negative with
  | true =>
      have hls : ofText ('-' :: n.code) = some [.op "-", .number n.literal] :=
        (readsAs_minus_numeral hn).ofText_eq ⟨'-', rfl, by decide⟩
      rw [Expr.ofText?]
      show ofText ('-' :: n.code) >>= _ = _
      rw [hls, Option.bind_eq_bind, Option.bind_some]
      exact congrArg (· >>= fun r => some r.1) (Parse.whole_minus_number n.literal)
  | false =>
      have hls : ofText n.code = some [.number n.literal] :=
        (readsAs_numeral hn).ofText_eq (exists_head_code hn)
      rw [Expr.ofText?]
      show ofText n.code >>= _ = _
      rw [hls, Option.bind_eq_bind, Option.bind_some]
      exact congrArg (· >>= fun r => some r.1) (Parse.whole_number n.literal)

/-- The text of an integer reads back, unless it is too long. -/
theorem Expr.ofText?_integer {k : Int} (hk : k.natAbs < Nat.pow 10 digitLimit) :
    Expr.ofText? (toString k).toList =
      some (Term.signed (k < 0) (.literal (.int k.natAbs))) := by
  have hread := Expr.ofText?_numeral (decide (k < 0)) (Lexeme.isWritten_toDigits hk)
  have hliteral : Lexeme.Numeral.literal { whole := Nat.toDigits 10 k.natAbs } =
      .int k.natAbs := congrArg Literal.int (Lexeme.natOf_toDigits _)
  rw [hliteral, Lexeme.code_whole] at hread
  rw [← hread, Int.toString_eq_repr, Int.repr_eq_if]
  obtain hneg | hpos := Int.lt_or_le k 0
  · have habs : (-k).toNat = k.natAbs := by omega
    rw [if_neg (Int.not_le.2 hneg), decide_eq_true hneg, String.toList_append, habs,
      Nat.toList_repr]
    rfl
  · have habs : k.toNat = k.natAbs := by omega
    rw [if_pos hpos, decide_eq_false (Int.not_lt.2 hpos), habs, Nat.toList_repr]
    rfl

/-- The text of a finite number reads back. -/
theorem Expr.ofText?_double (negative : Bool) {v : Rat} {m : Nat} {e : Int} (h : RoundsTo v m e)
    (he : e ≤ 971) :
    Expr.ofText? (FloatLayout.value.write (.finite negative m e)).toList =
      some (Term.signed negative (.literal (.float (.finite false m e)))) := by
  rw [FloatLayout.write, String.toList_ofList, ← Lexeme.code_ofDecimal,
    Expr.ofText?_numeral negative (Lexeme.isWritten_ofDecimal _), Lexeme.literal_ofDecimal h he]

end Curly
