import Curly.Proofs.Expr.Lexer

/-!
How the lexer goes through the numbers of generated code: integers that are not too long, and
floating-point numbers in every layout that they are written in.
-/

namespace Curly.Lexeme

open Text.Unicode

/-- A decimal number in code: digits, which a fraction and an exponent with a sign may follow. -/
structure Numeral where
  whole : List Char
  fraction : Option (List Char) := none
  exponent : Option (Bool × List Char) := none

namespace Numeral

/-- The exponent of a number in code. -/
def exponentCode : Option (Bool × List Char) → List Char
  | none => []
  | some (negative, ds) => 'e' :: (if negative then '-' else '+') :: ds

/-- The fraction of a number in code. -/
def fractionCode : Option (List Char) → List Char
  | none => []
  | some ds => '.' :: ds

/-- A number in code. -/
def code (n : Numeral) : List Char :=
  n.whole ++ (fractionCode n.fraction ++ exponentCode n.exponent)

/-- The power of ten that the digits of a number in code are multiplied by. -/
def power (n : Numeral) : Int :=
  (match n.exponent with
    | some (negative, ds) => if negative then -(Reading.natOf ds : Int) else Reading.natOf ds
    | none => 0) - (n.fraction.getD []).length

/-- The literal that a number in code stands for. -/
def literal (n : Numeral) : Literal :=
  if n.fraction.isSome || n.exponent.isSome then
    .float (Reading.scaled false (n.whole ++ n.fraction.getD []) n.power)
  else .int (Reading.natOf n.whole)

/-- Whether a number is one that may be written: an integer has no needless zeros in front, and is
not too long. -/
structure IsWritten (n : Numeral) : Prop where
  whole_ne_nil : n.whole ≠ []
  isDigit_of_whole : ∀ c ∈ n.whole, c.isDigit = true
  isDigit_of_fraction : ∀ ds ∈ n.fraction, ∀ c ∈ ds, c.isDigit = true
  isDigit_of_exponent : ∀ e ∈ n.exponent, e.2 ≠ [] ∧ ∀ c ∈ e.2, c.isDigit = true
  isShort : n.fraction.isSome ∨ n.exponent.isSome ∨
    (n.whole.head? = some '0' → n.whole = ['0']) ∧ n.whole.length ≤ Reading.digitLimit

end Numeral

/-! ### Digits -/

/-- What may follow digits that are read: neither a digit nor a low line. -/
def EndsDigits (s : List Char) : Prop := ∀ c ∈ s.head?, c.isDigit = false ∧ c ≠ '_'

theorem endsDigits_cons {c : Char} (hdigit : c.isDigit = false) (hlow : c ≠ '_') (s : List Char) :
    EndsDigits (c :: s) := by
  intro d hd
  cases hd
  exact ⟨hdigit, hlow⟩

theorem Breaks.endsDigits {s : List Char} (h : Breaks s) : EndsDigits s := by
  intro c hc
  have hany := h.head?_any (p := fun c => c.isDigit || c == '_') (by decide)
  rw [Option.mem_def.1 hc] at hany
  simpa using hany

theorem digitRun?_append {ds rest : List Char} (hds : ∀ c ∈ ds, c.isDigit = true)
    (hrest : EndsDigits rest) : digitRun? Char.isDigit (ds ++ rest) = some (ds, rest) := by
  induction ds with
  | nil =>
      cases rest with
      | nil => rfl
      | cons c rest =>
          obtain ⟨hdigit, hlow⟩ := hrest c rfl
          rw [List.nil_append, digitRun?]
          · simp [hdigit]
          · exact hlow
  | cons c ds ih =>
      obtain ⟨hc, hds⟩ := List.forall_mem_cons.1 hds
      rw [List.cons_append, digitRun?]
      · rw [if_pos hc, ih hds]
        rfl
      · rintro rfl
        exact absurd hc (by decide)

theorem head?_any_isDigit {ds : List Char} (hne : ds ≠ []) (hds : ∀ c ∈ ds, c.isDigit = true)
    (rest : List Char) : (ds ++ rest).head?.any Char.isDigit = true := by
  cases ds with
  | nil => exact absurd rfl hne
  | cons c ds => exact (List.forall_mem_cons.1 hds).1

theorem exponent?_code {e : Option (Bool × List Char)}
    (he : ∀ p ∈ e, p.2 ≠ [] ∧ ∀ c ∈ p.2, c.isDigit = true) {rest : List Char}
    (hrest : Breaks rest) :
    exponent? (Numeral.exponentCode e ++ rest) = some (e, rest) := by
  cases e with
  | none =>
      -- without an exponent, what follows does not begin one
      rw [Numeral.exponentCode, List.nil_append]
      cases rest with
      | nil => rfl
      | cons c rest =>
          have hmark : (c == 'e' || c == 'E') = false :=
            hrest.head?_any (p := fun c => c == 'e' || c == 'E') (by decide)
          rw [exponent?, hmark, if_neg Bool.false_ne_true]
  | some p =>
      obtain ⟨negative, ds⟩ := p
      obtain ⟨hne, hds⟩ := he _ rfl
      have hsign : Reading.sign ((if negative then '-' else '+') :: (ds ++ rest)) =
          (negative, ds ++ rest) := by
        cases negative <;> rfl
      simp only [Numeral.exponentCode, List.cons_append, exponent?, hsign,
        head?_any_isDigit hne hds rest, digitRun?_append hds hrest.endsDigits]
      rfl

/-- What stands behind the whole part of a number ends its digits. -/
theorem endsDigits_exponentCode (e : Option (Bool × List Char)) {rest : List Char}
    (hrest : Breaks rest) : EndsDigits (Numeral.exponentCode e ++ rest) := by
  cases e with
  | none => exact hrest.endsDigits
  | some p => exact endsDigits_cons (by decide) (by decide) _

/-- What stands behind the fraction of a number is not taken for one. -/
theorem exponentCode_append_ne (e : Option (Bool × List Char)) {rest : List Char}
    (hrest : Breaks rest) (t : List Char) : Numeral.exponentCode e ++ rest ≠ '.' :: t := by
  intro ht
  cases e with
  | none =>
      have hmark : '.' ∈ marks := by
        rw [Numeral.exponentCode, List.nil_append] at ht
        exact hrest '.' (by rw [ht]; rfl)
      exact absurd hmark (by decide)
  | some p => cases ht

theorem numberMayEnd_of_breaks {rest : List Char} (hrest : Breaks rest) :
    numberMayEnd rest = true := by
  cases rest with
  | nil => rfl
  | cons c rest =>
      have hmark : isNameChar c = false := hrest.head?_any (p := isNameChar) (by decide)
      rw [numberMayEnd, hmark]
      rfl

/-- What an integer in code must not be. -/
theorem not_leadingZero {whole : List Char} (h : whole.head? = some '0' → whole = ['0']) :
    (whole.head? == some '0' && whole.any (· != '0')) = false := by
  cases hzero : whole.head? == some '0' with
  | false => rfl
  | true =>
      rw [h (by simpa using hzero)]
      rfl

/-- A number in code is read as the literal that it stands for. -/
theorem decimal?_code {n : Numeral} (hn : n.IsWritten) {rest : List Char} (hrest : Breaks rest) :
    decimal? (n.code ++ rest) = some (n.literal, rest) := by
  obtain ⟨whole, fraction, exponent⟩ := n
  obtain ⟨hne, hwhole, hfraction, hexponent, hshort⟩ := hn
  dsimp only at hne hwhole hfraction hexponent hshort
  have hends := endsDigits_exponentCode exponent hrest
  have hend := exponent?_code hexponent hrest
  have himaginary := hrest.head?_any (p := fun c => c == 'j' || c == 'J') (by decide)
  have hmay := numberMayEnd_of_breaks hrest
  have hdigit := head?_any_isDigit hne hwhole
  rw [decimal?, Numeral.code]
  cases fraction with
  | none =>
      have hrun := digitRun?_append hwhole hends
      simp only [Numeral.fractionCode, List.nil_append, List.append_assoc, hdigit, if_true, hrun,
        Option.bind_eq_bind, Option.bind_some]
      split
      · rename_i t ht
        exact absurd ht (exponentCode_append_ne exponent hrest t)
      · simp only [hend, Option.bind_some, himaginary, hmay, Bool.not_true, Bool.false_eq_true,
          if_false]
        split
        · rename_i hexponent
          rw [Numeral.literal, if_pos hexponent]
          rfl
        · rename_i hinteger
          have hliteral : Numeral.literal ⟨whole, none, exponent⟩ = .int (Reading.natOf whole) :=
            if_neg hinteger
          rw [Option.isSome_none, Bool.false_or] at hinteger
          -- an integer: the one kind of number that may be too long, or have a zero in front
          obtain hsome | hsome | ⟨hzero, hlength⟩ := hshort
          · cases hsome
          · exact absurd hsome hinteger
          · rw [if_neg (by simp [not_leadingZero hzero]), if_neg (Nat.not_lt.2 hlength), hliteral]
  | some ds =>
      have hds := hfraction ds rfl
      have hrun := digitRun?_append hwhole (endsDigits_cons (c := '.') (by decide) (by decide)
        (ds ++ (Numeral.exponentCode exponent ++ rest)))
      simp only [Numeral.fractionCode, List.cons_append, List.append_assoc, hdigit, if_true, hrun,
        Option.bind_eq_bind, Option.bind_some]
      cases hdigits : (ds ++ (Numeral.exponentCode exponent ++ rest)).head?.any Char.isDigit with
      | true =>
          have hfraction := digitRun?_append hds hends
          simp only [if_true, hfraction, Option.map_some, hend, Option.bind_some, himaginary, hmay,
            Bool.not_true, Bool.false_eq_true, if_false, Option.isSome_some, Bool.true_or]
          rfl
      | false =>
          -- no digits stand behind the point, and the next character is none either
          obtain rfl : ds = [] := by
            by_contra hne
            rw [head?_any_isDigit hne hds] at hdigits
            cases hdigits
          simp only [Bool.false_eq_true, if_false, List.nil_append, hend, Option.bind_some,
            himaginary, hmay, Bool.not_true, Option.isSome_some, Bool.true_or, if_true]
          rfl

/-! ### Numbers -/

/-- What numbers in code are made of. -/
theorem mem_code {n : Numeral} (hn : n.IsWritten) {c : Char} (hc : c ∈ n.code) :
    c.isDigit = true ∨ c ∈ ['.', 'e', '+', '-'] := by
  -- a character of the whole part, of the fraction or of the exponent
  rw [Numeral.code, List.mem_append, List.mem_append] at hc
  obtain hc | hc | hc := hc
  · exact .inl (hn.isDigit_of_whole c hc)
  · cases hf : n.fraction with
    | none =>
        rw [hf] at hc
        cases hc
    | some ds =>
        rw [hf, Numeral.fractionCode, List.mem_cons] at hc
        obtain rfl | hc := hc
        · exact .inr (by decide)
        · exact .inl (hn.isDigit_of_fraction ds hf c hc)
  · cases he : n.exponent with
    | none =>
        rw [he] at hc
        cases hc
    | some p =>
        obtain ⟨negative, ds⟩ := p
        rw [he, Numeral.exponentCode, List.mem_cons, List.mem_cons] at hc
        obtain rfl | rfl | hc := hc
        · exact .inr (by decide)
        · cases negative
          · exact .inr (by decide)
          · exact .inr (by decide)
        · exact .inl ((hn.isDigit_of_exponent _ he).2 c hc)

theorem exists_digit {n : Numeral} (hn : n.IsWritten) :
    ∃ d s, n.code = d :: s ∧ d.isDigit = true := by
  obtain ⟨d, ds, hwhole⟩ := List.exists_cons_of_ne_nil hn.whole_ne_nil
  refine ⟨d, _, by rw [Numeral.code, hwhole, List.cons_append], hn.isDigit_of_whole d ?_⟩
  rw [hwhole]
  exact List.mem_cons_self

/-- Numbers in code have no letter that marks a base. -/
theorem number?_code {n : Numeral} (hn : n.IsWritten) {rest : List Char} (hrest : Breaks rest) :
    number? (n.code ++ rest) = decimal? (n.code ++ rest) := by
  rw [number?.eq_def]
  split
  · rename_i c t hcode
    -- the letter would be the second character, which is one of the number or the mark behind it
    have hc : c.isDigit = true ∨ c ∈ ['.', 'e', '+', '-'] ++ marks := by
      obtain ⟨d, s, hs, -⟩ := exists_digit hn
      rw [hs, List.cons_append] at hcode
      have htail : s ++ rest = c :: t := (List.cons.inj hcode).2
      cases s with
      | nil =>
          rw [List.nil_append] at htail
          exact .inr (List.mem_append_right _ (hrest c (by rw [htail]; rfl)))
      | cons e s =>
          obtain rfl : e = c := (List.cons.inj htail).1
          have hmem : e ∈ n.code := by
            rw [hs]
            simp
          exact (mem_code hn hmem).imp_right fun h => List.mem_append_left _ h
    have hletter {b : Char} (hdigit : b.isDigit = false)
        (hmark : b ∉ ['.', 'e', '+', '-'] ++ marks) : (c == b) = false := by
      rw [beq_eq_false_iff_ne]
      rintro rfl
      obtain h | h := hc
      · rw [h] at hdigit
        cases hdigit
      · exact hmark h
    simp [hletter (b := 'x') (by decide) (by decide), hletter (b := 'X') (by decide) (by decide),
      hletter (b := 'o') (by decide) (by decide), hletter (b := 'O') (by decide) (by decide),
      hletter (b := 'b') (by decide) (by decide), hletter (b := 'B') (by decide) (by decide)]
  · rfl

variable {stack : List String} {rest : List Char}

theorem exists_head_code {n : Numeral} (hn : n.IsWritten) :
    ∃ c ∈ n.code.head?, BeginsLexeme c := by
  obtain ⟨d, s, hs, hd⟩ := exists_digit hn
  exact ⟨d, by rw [hs]; rfl,
    beginsLexeme_of_isNameChar (by simp [isNameChar, Char.isAlphanum, hd])⟩

/-- A number in code is one lexeme. -/
theorem next?_numeral {n : Numeral} (hn : n.IsWritten) (hrest : Breaks rest) :
    next? (n.code ++ rest) = some (.number n.literal, rest) := by
  have hnumber : number? (n.code ++ rest) = some (n.literal, rest) := by
    rw [number?_code hn hrest, decimal?_code hn hrest]
  obtain ⟨d, s, hs, hd⟩ := exists_digit hn
  rw [hs, List.cons_append] at hnumber ⊢
  rw [next?, if_pos (by simp [hd]), hnumber]
  rfl

theorem not_mem_code {n : Numeral} (hn : n.IsWritten) : '\r' ∉ n.code := by
  intro hmem
  obtain h | h := mem_code hn hmem
  · exact absurd h (by decide)
  · exact absurd h (by decide)

theorem readsAs_numeral {n : Numeral} (hn : n.IsWritten) :
    ReadsAs 0 n.code [.number n.literal] :=
  fun _ _ _ hrest => scan_lexeme_of_not_mem (exists_head_code hn) (not_mem_code hn)
    (next?_numeral hn hrest.normalizeLines) rfl

/-! ### Integers -/

theorem isDigit_of_mem_toDigits {n : Nat} : ∀ c ∈ Nat.toDigits 10 n, c.isDigit = true :=
  fun _ hc => Nat.isDigit_of_mem_toDigits (by decide) (by decide) hc

/-- Only zero is written with a zero in front. -/
theorem head?_toDigits_ne {n : Nat} (hn : 0 < n) : (Nat.toDigits 10 n).head? ≠ some '0' := by
  induction n using Nat.strongRecOn with
  | ind n ih =>
      rw [Nat.toDigits_eq_if (by decide)]
      split
      · rename_i hlt
        have hdigit : ∀ k < 10, 0 < k → k.digitChar ≠ '0' := by decide
        simpa using hdigit n hlt hn
      · rename_i hle
        rw [List.head?_append_of_ne_nil _ Nat.toDigits_ne_nil]
        exact ih (n / 10) (Nat.div_lt_self hn (by decide)) (by omega)

theorem isWritten_toDigits {n : Nat} (hn : n < Nat.pow 10 Reading.digitLimit) :
    Numeral.IsWritten { whole := Nat.toDigits 10 n } where
  whole_ne_nil := Nat.toDigits_ne_nil
  isDigit_of_whole := isDigit_of_mem_toDigits
  isDigit_of_fraction := nofun
  isDigit_of_exponent := nofun
  isShort := by
    rw [Nat.pow_eq] at hn
    have hlength := (Nat.length_toDigits_le_iff (by decide) (by decide)).2 hn
    refine .inr (.inr ⟨fun hzero => ?_, hlength⟩)
    obtain rfl | hpos := Nat.eq_zero_or_pos n
    · exact Nat.toDigits_zero 10
    · exact absurd hzero (head?_toDigits_ne hpos)

theorem code_whole (ds : List Char) : Numeral.code { whole := ds } = ds := by
  simp [Numeral.code, Numeral.fractionCode, Numeral.exponentCode]

/-- A sign in front of a letter or a digit is a lexeme of its own. -/
theorem ReadsAs.minus {code : List Char} {ks : List Lexeme} (h : ReadsAs 0 code ks)
    (hcode : ∃ c ∈ code.head?, c.isAlphanum = true) : ReadsAs 0 ('-' :: code) (.op "-" :: ks) := by
  intro stack rest hroom hrest
  obtain ⟨c, hc, halnum⟩ := hcode
  obtain ⟨s, rfl⟩ := List.head?_eq_some_iff.1 hc
  have hhead : ∀ d ∈ (c :: (s ++ rest)).head?, d.isAlphanum = true := by
    rintro d ⟨⟩
    exact halnum
  rw [List.cons_append, List.cons_append, scan_minus hhead, ← List.cons_append, h hroom hrest,
    Option.map_map]
  rfl

theorem readsAs_minus_numeral {n : Numeral} (hn : n.IsWritten) :
    ReadsAs 0 ('-' :: n.code) [.op "-", .number n.literal] := by
  obtain ⟨d, s, hs, hd⟩ := exists_digit hn
  refine (readsAs_numeral hn).minus ⟨d, by rw [hs]; rfl, ?_⟩
  rw [Char.isAlphanum, hd, Bool.or_true]

/-- The lexemes of an integer that is not too long. -/
theorem exists_readsAs_integer {n : Int} (hn : n.natAbs < Nat.pow 10 Reading.digitLimit) :
    ∃ ks, ReadsAs 0 (toString n).toList ks := by
  rw [Int.toString_eq_repr, Int.repr_eq_if]
  split
  · have hreads := readsAs_numeral (isWritten_toDigits (n := n.toNat) (by omega))
    rw [code_whole, ← Nat.toList_repr] at hreads
    exact ⟨_, hreads⟩
  · have hreads := readsAs_minus_numeral (isWritten_toDigits (n := (-n).toNat) (by omega))
    rw [code_whole, ← Nat.toList_repr] at hreads
    rw [String.toList_append]
    exact ⟨_, hreads⟩

/-! ### Floating-point numbers -/

/-- More digits make a number of digits. -/
theorem isDigit_of_mem_append {ds es : List Char} (hds : ∀ c ∈ ds, c.isDigit = true)
    (hes : ∀ c ∈ es, c.isDigit = true) : ∀ c ∈ ds ++ es, c.isDigit = true :=
  List.forall_mem_append.2 ⟨hds, hes⟩

theorem isDigit_of_mem_replicate (n : Nat) : ∀ c ∈ List.replicate n '0', c.isDigit = true := by
  intro c hc
  rw [List.eq_of_mem_replicate hc]
  decide

theorem isDigit_of_mem_padded (width n : Nat) :
    ∀ c ∈ FloatLayout.padded width n, c.isDigit = true :=
  isDigit_of_mem_append (isDigit_of_mem_replicate _) isDigit_of_mem_toDigits

theorem isWritten_fraction {whole ds : List Char} (hne : whole ≠ [])
    (hwhole : ∀ c ∈ whole, c.isDigit = true) (hds : ∀ c ∈ ds, c.isDigit = true) :
    Numeral.IsWritten ⟨whole, some ds, none⟩ where
  whole_ne_nil := hne
  isDigit_of_whole := hwhole
  isDigit_of_fraction := by
    intro es hes
    cases hes
    exact hds
  isDigit_of_exponent := nofun
  isShort := .inl rfl

/-- The numeral as which a decimal is written: with a fraction or an exponent. -/
def Numeral.ofDecimal (d : Decimal) : Numeral :=
  let ds := Nat.toDigits 10 d.digits
  let lead : Int := ds.length + d.exponent - 1
  if FloatLayout.value.positionalFrom ≤ lead && lead < FloatLayout.value.positionalBelow then
    -- a whole number has zeros where its digits end
    if 0 ≤ d.exponent then ⟨ds ++ List.replicate d.exponent.toNat '0', some ['0'], none⟩
    else if 0 ≤ lead then ⟨ds.take (lead + 1).toNat, some (ds.drop (lead + 1).toNat), none⟩
    else ⟨['0'], some (List.replicate (-lead - 1).toNat '0' ++ ds), none⟩
  else
    ⟨ds.take 1, if ds.drop 1 = [] then none else some (ds.drop 1),
      some (decide (lead < 0), FloatLayout.padded 2 lead.natAbs)⟩

theorem code_ofDecimal (d : Decimal) : (Numeral.ofDecimal d).code = FloatLayout.value.body d := by
  have hne : Nat.toDigits 10 d.digits ≠ [] := Nat.toDigits_ne_nil
  rw [Numeral.ofDecimal, FloatLayout.body]
  -- Of the digits it only matters that there is one.
  generalize Nat.toDigits 10 d.digits = ds at hne ⊢
  dsimp only
  split
  · split
    · simp [Numeral.code, Numeral.fractionCode, Numeral.exponentCode, FloatLayout.value]
    split
    · simp [Numeral.code, Numeral.fractionCode, Numeral.exponentCode]
    · simp [Numeral.code, Numeral.fractionCode, Numeral.exponentCode]
  · obtain ⟨c, cs, rfl⟩ := List.exists_cons_of_ne_nil hne
    cases cs with
    | nil => simp [Numeral.code, Numeral.fractionCode, Numeral.exponentCode]
    | cons e cs => simp [Numeral.code, Numeral.fractionCode, Numeral.exponentCode]

theorem isWritten_ofDecimal (d : Decimal) : (Numeral.ofDecimal d).IsWritten := by
  have hdigits : ∀ c ∈ Nat.toDigits 10 d.digits, c.isDigit = true := isDigit_of_mem_toDigits
  have hne : Nat.toDigits 10 d.digits ≠ [] := Nat.toDigits_ne_nil
  rw [Numeral.ofDecimal]
  generalize Nat.toDigits 10 d.digits = ds at hdigits hne ⊢
  generalize hlead : (ds.length : Int) + d.exponent - 1 = lead
  split
  · split
    · exact isWritten_fraction (by simp [hne])
        (isDigit_of_mem_append hdigits (isDigit_of_mem_replicate _)) (by simp)
    split
    · -- the point stands among the digits
      rename_i hexponent hpositive
      refine isWritten_fraction ?_ (fun c hc => hdigits c (List.mem_of_mem_take hc))
        fun c hc => hdigits c (List.mem_of_mem_drop hc)
      rw [ne_eq, List.take_eq_nil_iff, not_or]
      exact ⟨by omega, hne⟩
    · -- the point stands in front of the digits
      exact isWritten_fraction (by simp) (by simp)
        (isDigit_of_mem_append (isDigit_of_mem_replicate _) hdigits)
  · obtain ⟨c, cs, rfl⟩ := List.exists_cons_of_ne_nil hne
    obtain ⟨hc, hcs⟩ := List.forall_mem_cons.1 hdigits
    refine ⟨by simp, by simpa using hc, ?_, ?_, .inr (.inl rfl)⟩
    · intro fraction hfraction
      dsimp only at hfraction
      split at hfraction
      · cases hfraction
      · cases hfraction
        exact hcs
    · intro p hp
      cases hp
      exact ⟨by simp [FloatLayout.padded, Nat.toDigits_ne_nil], isDigit_of_mem_padded _ _⟩

/-- The lexemes of a floating-point number. -/
theorem exists_readsAs_double (x : Double) :
    ∃ ks, ReadsAs 0 (FloatLayout.value.write x).toList ks := by
  cases x with
  | nan => exact ⟨_, readsAs_word (w := "nan".toList) (by decide)⟩
  | infinite negative =>
      have hreads := readsAs_word (w := "inf".toList) (by decide)
      cases negative with
      | false => exact ⟨_, hreads⟩
      | true => exact ⟨_, hreads.minus ⟨'i', rfl, by decide⟩⟩
  | finite negative m e =>
      have hn := isWritten_ofDecimal (Decimal.shortest m e)
      rw [FloatLayout.write, String.toList_ofList, ← code_ofDecimal]
      cases negative with
      | false => exact ⟨_, readsAs_numeral hn⟩
      | true => exact ⟨_, readsAs_minus_numeral hn⟩

end Curly.Lexeme
