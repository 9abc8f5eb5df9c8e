import Curly.Proofs.Number.Grammar
import Curly.Proofs.Term.Comparison
import Curly.Proofs.Term.Outcome
import Curly.Proofs.Term.Overrun

/-!
Operands that are numbers. The texts that are taken for numbers are those of the grammar. The code
of such an operand is a numeral with the sign of the number: the integer itself, or what the number
is rounded to. It stands for this value wherever it is evaluated, and comparing with it cannot fail.
Two kinds of numbers are the exceptions: integers with too many digits are refused, and numbers that
are rounded beyond the greatest one are written as a name.
-/

namespace Curly

open Text Text.Unicode Reading Lexeme

namespace Term

/-! ## The texts that are numbers -/

/-- Whether a text is nothing or an exponent. -/
def isExponent (s : List Char) : Bool :=
  match s with
  | [] => true
  | e :: r =>
    let (_, ds) := Reading.sign r
    (e == 'e' || e == 'E') && !ds.isEmpty && ds.all isDecimal

theorem isNumber_eq (s : List Char) :
    isNumber s =
      let (whole, rest) := (Reading.sign s).2.span isDecimal
      let (fraction, rest) := afterPoint isDecimal rest
      !(whole.isEmpty && fraction.isEmpty) && isExponent rest := by
  unfold afterPoint
  simp only [List.span_eq_takeWhile_dropWhile]
  rfl

theorem isExponent_iff {s : List Char} :
    isExponent s = true ↔ ∃ e, NumberText.exponentText e = s ∧
      ∀ x ∈ e, x.mark ∈ ['e', 'E'] ∧ x.digits ≠ [] ∧ ∀ c ∈ x.digits, isDecimal c = true := by
  constructor
  · intro h
    cases s with
    | nil => exact ⟨none, rfl, by simp⟩
    | cons c s =>
        -- behind the mark the sign is cut off as the reader does it
        obtain ⟨o, ho⟩ := exists_signText s
        rw [isExponent, Bool.and_eq_true, Bool.and_eq_true, Bool.not_eq_true', List.all_eq_true,
          List.isEmpty_eq_false_iff] at h
        refine ⟨some ⟨c, o, (Reading.sign s).2⟩, by rw [NumberText.exponentText, ho], ?_⟩
        rintro x ⟨⟩
        exact ⟨by simpa using h.1.1, h.1.2, h.2⟩
  · rintro ⟨e, rfl, he⟩
    cases e with
    | none => rfl
    | some x =>
        obtain ⟨hmark, hne, hdigits⟩ := he x rfl
        rw [NumberText.exponentText, isExponent, sign_signText (head?_digits hdigits)]
        simp only [List.mem_cons, List.not_mem_nil, or_false] at hmark
        simpa [hne] using ⟨hmark, hdigits⟩

/-- What is taken off behind a point is a fraction. -/
theorem exists_afterPoint (s : List Char) :
    ∃ fraction, Numeral.fractionCode fraction ++ (afterPoint isDecimal s).2 = s ∧
      (afterPoint isDecimal s).1 = fraction.getD [] ∧
      ∀ ds ∈ fraction, ∀ c ∈ ds, isDecimal c = true := by
  unfold afterPoint
  split
  · rename_i r
    rw [List.span_eq_takeWhile_dropWhile]
    refine ⟨some (r.takeWhile isDecimal), ?_, rfl, ?_⟩
    · exact congrArg ('.' :: ·) List.takeWhile_append_dropWhile
    · rintro ds ⟨⟩ c hc
      exact List.mem_takeWhile_imp hc
  · exact ⟨none, rfl, rfl, by simp⟩

/-- **The texts that are taken for numbers are those of the grammar.** -/
theorem isNumber_iff {s : List Char} :
    isNumber s = true ↔ ∃ n : NumberText, n.IsNumber isDecimal ∧ n.text = s := by
  constructor
  · intro h
    obtain ⟨o, ho⟩ := exists_signText s
    rw [isNumber_eq, List.span_eq_takeWhile_dropWhile] at h
    generalize (Reading.sign s).2 = body at h ho
    dsimp only at h
    -- the parts are taken from the front one by one, and joined they are the text again
    obtain ⟨fraction, hfraction, htaken, hdigits⟩ := exists_afterPoint (body.dropWhile isDecimal)
    rw [Bool.and_eq_true, htaken, isExponent_iff] at h
    obtain ⟨hsome, exponent, hexponent, hvalid⟩ := h
    refine ⟨⟨o, body.takeWhile isDecimal, fraction, exponent⟩,
      ⟨fun c hc => List.mem_takeWhile_imp hc, hdigits, ?_, hvalid⟩, ?_⟩
    · cases fraction with
      | none => exact .inl (by simpa using hsome)
      | some ds => simpa [Classical.or_iff_not_imp_left] using hsome
    · rw [NumberText.text, NumberText.body, hexponent, hfraction,
        List.takeWhile_append_dropWhile, ho]
  · rintro ⟨n, hn, rfl⟩
    have hmarks : ∀ c ∈ ['.', 'e', 'E'], isDecimal c = false :=
      fun c hc => (mark_facts (mem_marks hc)).1
    rw [isNumber_eq, hn.sign_text]
    dsimp only
    rw [hn.span_body hmarks]
    dsimp only
    rw [hn.afterPoint_rest hmarks]
    dsimp only
    rw [hn.isEmpty_and_isEmpty]
    exact isExponent_iff.2 ⟨n.exponent, rfl, hn.isExponent⟩

/-- The integers among the numbers are those with neither point nor exponent. -/
theorem isInteger_text {n : NumberText} (hn : n.IsNumber isDecimal) :
    isInteger n.text = n.isInteger := by
  have hmark : ∀ c ∈ ['.', 'e', 'E'], isDecimal c = false :=
    fun c hc => (mark_facts (mem_marks hc)).1
  rw [Bool.eq_iff_iff, isInteger_iff, hn.sign_text]
  constructor
  · rintro ⟨-, hdigits⟩
    -- what follows the digits in front begins with a mark
    have hrest : Numeral.fractionCode n.fraction ++ NumberText.exponentText n.exponent = [] := by
      refine List.eq_nil_iff_forall_not_mem.2 fun c hc => ?_
      obtain ⟨d, s, hs⟩ := List.exists_cons_of_ne_nil (List.ne_nil_of_mem hc)
      have hd := hmark d (hn.head?_rest d (by rw [hs]; rfl))
      rw [hdigits d (List.mem_append_right _ (by rw [hs]; exact List.mem_cons_self))] at hd
      cases hd
    obtain ⟨hfraction, hexponent⟩ := List.append_eq_nil_iff.1 hrest
    rw [NumberText.isInteger, Bool.and_eq_true, Option.isNone_iff_eq_none,
      Option.isNone_iff_eq_none]
    constructor
    · cases hfraction' : n.fraction with
      | none => rfl
      | some ds =>
          rw [hfraction'] at hfraction
          cases hfraction
    · cases hexponent' : n.exponent with
      | none => rfl
      | some e =>
          rw [hexponent'] at hexponent
          cases hexponent
  · intro hinteger
    rw [NumberText.body_of_isInteger hinteger]
    exact ⟨hn.whole_ne_nil hinteger, hn.isDigit_of_whole⟩

/-- A number does not begin with a quote. -/
theorem isQuoted_text {n : NumberText} (hn : n.IsNumber isDecimal) : isQuoted n.text = false := by
  -- the first character is a sign, a digit or the point
  have hhead : ∀ c ∈ n.text.head?, c ∉ ['\'', '"'] := by
    cases hsign : n.sign with
    | some negative =>
        rw [NumberText.text, hsign]
        cases negative with
        | true =>
            rintro d ⟨⟩
            decide
        | false =>
            rintro d ⟨⟩
            decide
    | none =>
        obtain ⟨c, s, hbody, hc⟩ := hn.exists_head
        have hquotes : ∀ c ∈ ['\'', '"'], isDecimal c = false ∧ c ≠ '.' := by
          intro c hc
          simp only [List.mem_cons, List.not_mem_nil, or_false] at hc
          rcases hc with rfl | rfl
          all_goals decide
        rw [NumberText.text, hsign, hbody]
        rintro d ⟨⟩ hquote
        obtain ⟨hdecimal, hpoint⟩ := hquotes c hquote
        obtain hc | hc := hc
        · rw [hdecimal] at hc
          cases hc
        · exact hpoint hc
  unfold isQuoted
  split
  · rename_i c d s heq
    have hc := hhead c (by rw [heq]; rfl)
    simp only [List.mem_cons, List.not_mem_nil, or_false, not_or] at hc
    simp [hc]
  · rfl

/-! ## The terms of numbers -/

/-- The literal of a number with its sign, and its value: the integer itself, or what the number is
rounded to. -/
inductive Denotes (n : NumberText) : Expr → Value → Prop
  | integer {k : Int} (hn : n.isInteger = true) (hk : (k : Rat) = n.value) :
      Denotes n (signed (k < 0) (.literal (.int k.natAbs))) (.int k)
  | rounded {m : Nat} {e : Int} (hn : n.isInteger = false) (h : RoundsTo n.magnitude m e)
      (he : e ≤ 971) :
      Denotes n (signed n.isNegative (.literal (.float (.finite false m e))))
        (.float (.finite n.isNegative m e))

/-- A number has its value wherever it is evaluated. -/
theorem Denotes.eval {n : NumberText} {e : Expr} {v : Value} (h : Denotes n e v) (hooks : Hooks)
    (env : Env) : Eval.expr hooks env e = pure v := by
  have hliteral (l : Literal) : Eval.expr hooks env (.literal l) = pure l.toValue := by
    rw [Eval.expr]
  have hminus (l : Literal) : Eval.expr hooks env (.unary .minus (.literal l)) =
      Eval.ofExcept (l.toValue.operateUnary .minus) := by
    rw [Eval.expr, hliteral, pure_bind]
  cases h with
  | @integer k hn hk =>
      -- a negative number is written as the minus of its absolute value
      obtain hneg | hpos := Int.lt_or_le k 0
      · have hk : -(k.natAbs : Int) = k := by omega
        rw [signed, decide_eq_true hneg, if_pos rfl, hminus]
        exact congrArg (fun i => (pure (Value.int i) : Eval Value)) hk
      · have hk : (k.natAbs : Int) = k := by omega
        rw [signed, decide_eq_false (Int.not_lt.2 hpos), if_neg Bool.false_ne_true, hliteral]
        exact congrArg (fun i => (pure (Value.int i) : Eval Value)) hk
  | @rounded m e hn h he =>
      cases n.isNegative with
      | true => exact hminus (.float (.finite false m e))
      | false => exact hliteral (.float (.finite false m e))

theorem Denotes.isStarred {n : NumberText} {e : Expr} {v : Value} (h : Denotes n e v) :
    e.isStarred = false := by
  cases h with
  | integer => exact isStarred_of_isConstant (isConstant_signed _ (.literal _))
  | rounded => exact isStarred_of_isConstant (isConstant_signed _ (.literal _))

/-! ## Comparing -/

/-- Whether comparing with a term cannot fail: on either side, a comparison has a value where its
other operand has one. -/
def IsComparable (t : Term) : Prop :=
  ∀ {p : Program}, p.HasOwnNames → ∀ (d : Nat) (op : Operator) (other : Term),
    other.expr.isStarred = false → ∀ (m m₁ : Machine) (w : Value),
    Eval.expr (Eval.hooks (d + 1)) p.env other.expr m = .ok (w, m₁) →
    (∃ v m₂, Eval.expr (Eval.hooks (d + 1)) p.env (comparison op t other).expr m = .ok (v, m₂)) ∧
      ∃ v m₂, Eval.expr (Eval.hooks (d + 1)) p.env (comparison op other t).expr m = .ok (v, m₂)

theorem Denotes.isComparable {n : NumberText} {e : Expr} {v : Value} (h : Denotes n e v)
    (code : String) : (literal code e).IsComparable := by
  intro p hp d op other hother m m₁ w hw
  have hvalue (m : Machine) :
      Eval.expr (Eval.hooks (d + 1)) p.env (literal code e).expr m = .ok (v, m) := by
    rw [expr, h.eval]
    rfl
  have hliteral : (literal code e).expr.isStarred = false := h.isStarred
  obtain ⟨u, m₂, hleft, -⟩ := op.decides_holds v w p d hp hliteral hother (hvalue m) hw
  obtain ⟨u', m₂', hright, -⟩ := op.decides_holds w v p d hp hother hliteral hw (hvalue m₁)
  exact ⟨⟨u, m₂, hleft⟩, u', m₂', hright⟩

/-! ## Operands that are numbers -/

variable {n : NumberText} {text : List Char}

theorem readOperand_eq (scope : Scope) (hn : n.IsNumber isDecimal) (htext : strip text = n.text) :
    readOperand scope text = (readNumber? n.text).getD (readAccess scope n.text) := by
  rw [readOperand, htext, isQuoted_text hn, if_neg Bool.false_ne_true]

/-- Integers are read as what they denote, unless they are too long. -/
theorem readNumber?_of_integer (hn : n.IsNumber isDecimal) (hstrip : strip n.text = n.text)
    (hinteger : n.isInteger = true) :
    (digitLimit < n.whole.length ∧
        readNumber? n.text = some (.error ⟨.numberTooLong (some n.whole.length), none⟩)) ∨
      n.whole.length ≤ digitLimit ∧ ∃ code e v, readNumber? n.text = some (.ok (.literal code e)) ∧
        Denotes n e v ∧ Expr.ofText? code.toList = some e := by
  have hnumber : (!isNumber n.text) = false := by rw [isNumber_iff.2 ⟨n, hn, rfl⟩]; rfl
  rw [readNumber?, hnumber, if_neg Bool.false_ne_true, isInteger_text hn, if_pos hinteger]
  obtain ⟨hlong, hint⟩ | ⟨hshort, k, hint, hk⟩ := hn.int_text hstrip hinteger
  · rw [hint]
    exact .inl ⟨hlong, rfl⟩
  · have hlt := natAbs_lt_of_int hint
    rw [hint]
    exact .inr ⟨hshort, _, _, _, rfl, .integer hinteger hk, Expr.ofText?_integer hlt⟩

/-- Other numbers are read as what they are rounded to, unless they are too large. -/
theorem readNumber?_of_rounded (hn : n.IsNumber isDecimal) (hstrip : strip n.text = n.text)
    (hrounded : n.isInteger = false) :
    (overflowBound ≤ n.magnitude ∧
        readNumber? n.text = some (.ok (ofDouble (.infinite n.isNegative)))) ∨
      n.magnitude < overflowBound ∧
        ∃ code e v, readNumber? n.text = some (.ok (.literal code e)) ∧ Denotes n e v ∧
          Expr.ofText? code.toList = some e := by
  have hnumber : (!isNumber n.text) = false := by rw [isNumber_iff.2 ⟨n, hn, rfl⟩]; rfl
  obtain ⟨m, e, h⟩ := n.exists_roundsTo
  rw [readNumber?, hnumber, if_neg Bool.false_ne_true, isInteger_text hn, hrounded,
    if_neg Bool.false_ne_true, hn.float?_text hstrip h, Double.bounded]
  -- beyond the greatest exponent of a finite number, which the magnitude tells as well
  by_cases hlarge : 971 < e
  · rw [if_pos hlarge]
    exact .inl ⟨h.overflows_iff.1 hlarge, rfl⟩
  · have he := Int.not_lt.1 hlarge
    have hsmall : n.magnitude < overflowBound :=
      lt_of_not_ge fun hle => hlarge (h.overflows_iff.2 hle)
    rw [if_neg hlarge]
    exact .inr ⟨hsmall, _, _, _, rfl, Denotes.rounded hrounded h he,
      Expr.ofText?_double n.isNegative h he⟩

/-- The name of a number that is too large stands for nothing. -/
theorem eval_infinite {p : Program} (hp : p.HasOwnNames) (ha : p.assigned = []) (hooks : Hooks)
    (negative : Bool) :
    Eval.expr hooks p.env (ofDouble (.infinite negative)).expr =
      Eval.ofExcept (.error tooLarge) := by
  have hname : Eval.expr hooks p.env (.name FloatLayout.value.infinity) =
      Eval.ofExcept (.error tooLarge) := by
    rw [Eval.expr, Eval.load_infinity hp ha]
    rfl
  cases negative with
  | true =>
      show Eval.expr hooks p.env (.unary .minus (.name FloatLayout.value.infinity)) = _
      rw [Eval.expr, hname]
      rfl
  | false => exact hname

/-- **The operands that are numbers.** An integer with too many digits is refused. A number that is
rounded beyond the greatest one is written as a name, which stands for nothing. Every other number
is written as a numeral with its sign, which reads back as its literal: as the integer that it
denotes, or as what it is rounded to. It has this value wherever it is evaluated, and comparing with
it cannot fail. -/
theorem readOperand_number (scope : Scope) (hn : n.IsNumber isDecimal)
    (htext : strip text = n.text) :
    (n.IsTooLong →
      readOperand scope text = .error ⟨.numberTooLong (some n.whole.length), none⟩) ∧
    (n.IsTooLarge →
      readOperand scope text = .ok (.literal ((if n.isNegative then "-" else "") ++ "inf")
        (signed n.isNegative (.name "inf"))) ∧
      ∀ {p : Program}, p.HasOwnNames → p.assigned = [] → ∀ hooks,
        Eval.expr hooks p.env (signed n.isNegative (.name "inf")) =
          Eval.ofExcept (.error (.undefinedName "inf"))) ∧
    (¬n.IsTooLong → ¬n.IsTooLarge → ∃ code e v, readOperand scope text = .ok (.literal code e) ∧
      Denotes n e v ∧ Expr.ofText? code.toList = some e ∧
      (∀ hooks env, Eval.expr hooks env e = pure v) ∧ (literal code e).IsComparable) := by
  have hstrip : strip n.text = n.text := by rw [← htext, strip_strip]
  rw [readOperand_eq scope hn htext]
  refine ⟨?_, ?_, ?_⟩
  · rintro ⟨hinteger, hlong⟩
    obtain ⟨-, h⟩ | ⟨hshort, -⟩ := readNumber?_of_integer hn hstrip hinteger
    · rw [h]
      rfl
    · exact absurd hlong (Nat.not_lt.2 hshort)
  · rintro ⟨hrounded, hlarge⟩
    obtain ⟨-, h⟩ | ⟨hsmall, -⟩ := readNumber?_of_rounded hn hstrip hrounded
    · rw [h]
      exact ⟨rfl, fun hp ha hooks => eval_infinite hp ha hooks n.isNegative⟩
    · exact absurd hlarge (not_le.2 hsmall)
  · intro hshort hsmall
    -- an integer and a number that is rounded are read in different ways, and meet here
    have hread : ∃ code e v, readNumber? n.text = some (.ok (.literal code e)) ∧ Denotes n e v ∧
        Expr.ofText? code.toList = some e := by
      cases hinteger : n.isInteger with
      | true =>
          obtain ⟨hlong, -⟩ | ⟨-, h⟩ := readNumber?_of_integer hn hstrip hinteger
          · exact absurd ⟨hinteger, hlong⟩ hshort
          · exact h
      | false =>
          obtain ⟨hlarge, -⟩ | ⟨-, h⟩ := readNumber?_of_rounded hn hstrip hinteger
          · exact absurd ⟨hinteger, hlarge⟩ hsmall
          · exact h
    obtain ⟨code, e, v, h, hdenotes, hcode⟩ := hread
    rw [h]
    exact ⟨code, e, v, rfl, hdenotes, hcode, hdenotes.eval, hdenotes.isComparable code⟩

/-- With a large exponent, the code of a number is a name. -/
theorem readOperand_number_large :
    ∃ n : NumberText, n.text = "-1e400".toList ∧ n.IsNumber isDecimal ∧ n.IsTooLarge ∧
      readOperand [] " -1e400 ".toList =
        .ok (.literal "-inf" (.unary .minus (.name "inf"))) := by
  let n : NumberText := ⟨some true, ['1'], none, some ⟨'e', none, ['4', '0', '0']⟩⟩
  have hn : n.IsNumber isDecimal := by
    have hwhole : ∀ c ∈ ['1'], isDecimal c = true := List.all_eq_true.1 (by decide)
    have hdigits : ∀ c ∈ ['4', '0', '0'], isDecimal c = true := List.all_eq_true.1 (by decide)
    refine ⟨hwhole, nofun, .inl (by decide), ?_⟩
    rintro e ⟨⟩
    exact ⟨by decide, by decide, hdigits⟩
  have hlarge : n.IsTooLarge := by
    have hdigits : natOf (n.ascii.numeral.whole ++ n.ascii.numeral.fraction.getD []) = 1 := by
      decide
    have hpower : n.ascii.numeral.power = 400 := by decide
    refine ⟨rfl, overflowBound_le.trans ?_⟩
    rw [NumberText.magnitude, Numeral.value, hdigits, hpower, Nat.cast_one, one_mul]
  exact ⟨n, by decide, hn, hlarge, ((readOperand_number [] hn (by decide)).2.1 hlarge).1⟩

end Term

end Curly
