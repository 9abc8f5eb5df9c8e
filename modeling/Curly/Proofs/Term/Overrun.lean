import Curly.Proofs.Except
import Curly.Proofs.Number.Reading
import Curly.Proofs.Term.Reader

/-!
Texts with numbers that are too long. Integers are read from and written in decimal up to a limit of
digits. An operand beyond the limit cannot be read, and a free-form expression with an integer
beyond it cannot be written, which only one in another base can be: the parser refuses decimal ones.
These two are the only texts that are refused for another reason than an error of the author.
-/

namespace Curly

/-- Whether a text is refused for a limit that was run into. -/
def Overran {α : Type} (r : Except ExpressionFailure α) : Prop :=
  r.FailsWith fun e => e.isUserError = false

namespace Term

open Text Text.Unicode Form Shorthand Reading

/-- Whether a text holds an integer with more digits than can be written. -/
def HoldsLongInteger (code : List Char) : Prop :=
  ∃ ls n, Lexeme.ofText code = some ls ∧ .number (.int n) ∈ ls ∧ Nat.pow 10 digitLimit ≤ n

/-- What a free-form expression is parsed from: its text without the shorthands. -/
def codeOf (scope : Scope) (s : List Char) : List Char :=
  strip (replaceArrows (replaceIndex (indexCode scope) s))

/-- A text is a free-form expression that can be read, but not be written. -/
structure AccessOverruns (scope : Scope) (text : List Char) : Prop where
  isFreeForm : IsFreeForm (strip text)
  parses : ∃ e, Expr.ofText? (codeOf scope (strip text)) = some e
  isLong : HoldsLongInteger (codeOf scope (strip text))

/-- An operand is an integer with too many digits, or overruns as an access does. -/
def OperandOverruns (scope : Scope) (text : List Char) : Prop :=
  isQuoted (strip text) = false ∧
    (isInteger (strip text) = true ∧ digitLimit < (sign (strip text)).2.length ∨
      readNumber? (strip text) = none ∧ AccessOverruns scope (strip text))

/-- The first operand of a comparison that cannot be read overruns, or what is no comparison
does. -/
def ConditionOverruns (scope : Scope) (text : List Char) : Prop :=
  match comparison? (strip text) with
  | some (word, left, right) => (∃ op, Operator.ofName? (String.ofList word) = some op) ∧
      (OperandOverruns scope left ∨
        (∃ t, readOperand scope left = .ok t) ∧ OperandOverruns scope right)
  | none => AccessOverruns scope text

variable {scope : Scope} {text : List Char}

theorem hasLongInteger_iff {code : List Char} :
    hasLongInteger code = true ↔ HoldsLongInteger code := by
  rw [hasLongInteger, HoldsLongInteger]
  cases hls : Lexeme.ofText code with
  | none => simp
  | some ls =>
      simp only [Option.some.injEq, exists_and_left, exists_eq_left']
      rw [List.any_eq_true]
      constructor
      · rintro ⟨l, hl, hlong⟩
        split at hlong
        · exact ⟨_, hl, of_decide_eq_true hlong⟩
        · cases hlong
      · rintro ⟨n, hl, hlong⟩
        exact ⟨_, hl, decide_eq_true hlong⟩

theorem overran_readComplex {s : List Char} :
    Overran (readComplex scope s) ↔
      (∃ e, Expr.ofText? (codeOf scope s) = some e) ∧ HoldsLongInteger (codeOf scope s) := by
  have hcode : strip (replaceArrows (replaceIndex (indexCode scope) s)) = codeOf scope s := rfl
  rw [readComplex, hcode]
  cases he : Expr.ofText? (codeOf scope s) with
  | none => simp [Overran, Except.failsWith_error, ExpressionFailure.isUserError]
  | some e =>
      rw [← hasLongInteger_iff]
      cases hasLongInteger (codeOf scope s) with
      | false => simp [Overran, Except.not_failsWith_ok]
      | true => simp [Overran, Except.failsWith_error, ExpressionFailure.isUserError]

theorem not_overran_error {α : Type} {e : ExpressionFailure} (he : e.isUserError = true) :
    ¬Overran (.error e : Except ExpressionFailure α) := by
  rw [Overran, Except.failsWith_error, he]
  exact Bool.noConfusion

theorem not_overran_ok {α : Type} (a : α) : ¬Overran (.ok a : Except ExpressionFailure α) :=
  Except.not_failsWith_ok a

/-- An access is refused for a limit if it overruns, and only then. -/
theorem overran_readAccess : Overran (readAccess scope text) ↔ AccessOverruns scope text := by
  -- only what is read as a free-form expression can overrun
  have hiff : AccessOverruns scope text ↔
      IsFreeForm (strip text) ∧ Overran (readComplex scope (strip text)) := by
    rw [overran_readComplex]
    exact ⟨fun h => ⟨h.isFreeForm, h.parses, h.isLong⟩, fun h => ⟨h.1, h.2.1, h.2.2⟩⟩
  rw [hiff]
  cases accessForm text with
  | empty hform hread =>
      rw [hread, hform]
      exact iff_of_false (not_overran_error rfl) fun h => not_isFreeForm_nil h.1
  | this hform hread =>
      rw [hread, hform]
      exact iff_of_false (not_overran_ok _) fun h => not_isFreeForm_this h.1
  | freeForm hform hread =>
      rw [hread]
      exact (and_iff_right hform).symm
  | ofThis _ _ hfree _ hread | ofData hfree _ hread =>
      rw [hread]
      exact iff_of_false (not_overran_ok _) fun h => hfree h.1
  | other hfree hread =>
      rw [hread]
      exact iff_of_false (not_overran_error rfl) fun h => hfree h.1

/-! ### Operands -/

theorem isInteger_iff {s : List Char} :
    isInteger s = true ↔ (sign s).2 ≠ [] ∧ ∀ c ∈ (sign s).2, isDecimal c = true := by
  rw [isInteger, Bool.and_eq_true, Bool.not_eq_true', List.all_eq_true,
    List.isEmpty_eq_false_iff]

/-- A sign and digits are a number. -/
theorem isNumber_of_isInteger {s : List Char} (h : isInteger s = true) : isNumber s = true := by
  obtain ⟨hne, hdigits⟩ := isInteger_iff.1 h
  rw [isNumber]
  generalize sign s = signed at hne hdigits
  obtain ⟨negative, body⟩ := signed
  have hall : ∀ c ∈ body, isDecimal c = true := hdigits
  simp only [List.takeWhile_eq_self_iff.2 hall, List.dropWhile_eq_nil_iff.2 hall]
  simpa using hne

/-- A number is refused for a limit if it is an integer with too many digits. -/
theorem readNumber?_of_isInteger {s : List Char} (hstrip : strip s = s)
    (h : isInteger s = true) : ∃ r, readNumber? s = some r ∧
      (Overran r ↔ digitLimit < (sign s).2.length) := by
  obtain ⟨hne, hdigits⟩ := isInteger_iff.1 h
  have hnumber : (!isNumber s) = false := by rw [isNumber_of_isInteger h]; rfl
  rw [readNumber?, hnumber, h]
  obtain ⟨hlong, hint⟩ | ⟨hshort, hint⟩ := int_of_digits hstrip hne hdigits
  · rw [hint]
    exact ⟨_, rfl, iff_of_true (Except.failsWith_error.2 rfl) hlong⟩
  · rw [hint]
    exact ⟨_, rfl, iff_of_false (not_overran_ok _) (Nat.not_lt.2 hshort)⟩

/-- Other numbers are read without limits. -/
theorem exists_readNumber?_of_not_isInteger {s : List Char} {r : Except ExpressionFailure Term}
    (h : isInteger s = false) (hr : readNumber? s = some r) : ∃ t, r = .ok t := by
  rw [readNumber?, h] at hr
  split at hr
  · cases hr
  · obtain ⟨x, -, rfl⟩ := Option.map_eq_some_iff.1 hr
    exact ⟨_, rfl⟩

/-- An operand is refused for a limit if it overruns, and only then. -/
theorem overran_readOperand : Overran (readOperand scope text) ↔ OperandOverruns scope text := by
  have hstrip := strip_strip text
  rw [readOperand, OperandOverruns]
  generalize strip text = s at hstrip ⊢
  cases hquoted : isQuoted s with
  | true =>
      -- a string that is none is an error of the author
      have hread : ¬Overran (readQuoted s) := by
        rw [readQuoted]
        split
        · exact not_overran_ok _
        · exact not_overran_error rfl
      exact iff_of_false hread fun h => Bool.noConfusion h.1
  | false =>
      rw [if_neg Bool.false_ne_true, and_iff_right rfl]
      cases hint : isInteger s with
      | true =>
          obtain ⟨r, hr, hlong⟩ := readNumber?_of_isInteger hstrip hint
          rw [hr, Option.getD_some, hlong, and_iff_right rfl]
          exact ⟨.inl, fun h => h.resolve_right fun h => Option.some_ne_none r h.1⟩
      | false =>
          rw [or_iff_right fun h => Bool.noConfusion h.1]
          cases hr : readNumber? s with
          | none =>
              rw [Option.getD_none, overran_readAccess, and_iff_right rfl]
          | some r =>
              obtain ⟨t, rfl⟩ := exists_readNumber?_of_not_isInteger hint hr
              exact iff_of_false (not_overran_ok t) fun h => Option.some_ne_none _ h.1

/-! ### Conditions -/

/-- Trimming a text twice changes nothing. -/
theorem accessOverruns_strip : AccessOverruns scope (strip text) ↔ AccessOverruns scope text := by
  constructor
  · rintro ⟨hfree, hparses, hlong⟩
    rw [strip_strip] at hfree hparses hlong
    exact ⟨hfree, hparses, hlong⟩
  · rintro ⟨hfree, hparses, hlong⟩
    rw [← strip_strip] at hfree hparses hlong
    exact ⟨hfree, hparses, hlong⟩

/-- A comparison is refused for a limit if the first operand that cannot be read overruns. -/
theorem overran_comparison {left right : List Char} (op : Operator) :
    Overran (do
      let l ← readOperand scope left
      let r ← readOperand scope right
      return Term.comparison op l r) ↔
      OperandOverruns scope left ∨
        (∃ l, readOperand scope left = .ok l) ∧ OperandOverruns scope right := by
  rw [Overran, Except.failsWith_bind, ← overran_readOperand, ← overran_readOperand]
  refine or_congr Iff.rfl ?_
  constructor
  · rintro ⟨l, hl, h⟩
    obtain h | ⟨r, -, h⟩ := Except.failsWith_bind.1 h
    · exact ⟨⟨l, hl⟩, h⟩
    · exact (not_overran_ok _ h).elim
  · rintro ⟨⟨l, hl⟩, h⟩
    exact ⟨l, hl, Except.failsWith_bind.2 (.inl h)⟩

/-- A condition is refused for a limit if it overruns, and only then. -/
theorem overran_readCondition :
    Overran (readCondition scope text) ↔ ConditionOverruns scope text := by
  rw [readCondition, ConditionOverruns]
  cases hparts : comparison? (strip text) with
  | some parts =>
      obtain ⟨word, left, right⟩ := parts
      dsimp only
      cases hop : Operator.ofName? (String.ofList word) with
      | none => exact iff_of_false (not_overran_error rfl) fun h => by simp at h
      | some op =>
          rw [and_iff_right ⟨op, rfl⟩]
          exact overran_comparison op
  | none =>
      dsimp only
      split
      · have hmap : Overran (Term.truthy <$> readAccess scope (strip text)) ↔
            Overran (readAccess scope (strip text)) := Except.failsWith_map
        rw [hmap, overran_readAccess, accessOverruns_strip]
      · rename_i hform
        -- what overruns as an access has a form that a condition accepts
        refine iff_of_false (not_overran_error rfl) fun h => hform ?_
        obtain hfree | ⟨hof, -⟩ := h.isFreeForm
        · rw [hfree, Bool.true_or, Bool.true_or, Bool.true_or]
        · rw [hof, Bool.or_true, Bool.true_or]

end Term

end Curly
