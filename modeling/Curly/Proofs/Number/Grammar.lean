import Curly.Proofs.Expr.Numeral
import Curly.Proofs.Number.Reading

/-!
Numbers in texts: a sign, digits of any script with or without a point among or around them, and an
exponent. A trimmed text of this form is read as the number that it denotes, which is rounded unless
it has neither point nor exponent.
-/

namespace Curly.Reading

open Text Text.Unicode Lexeme

/-- An exponent in a text: its mark, its sign and its digits. -/
structure ExponentText where
  mark : Char
  sign : Option Bool
  digits : List Char

/-- A number in a text. A sign tells whether it is a minus. -/
structure NumberText where
  sign : Option Bool := none
  whole : List Char
  fraction : Option (List Char) := none
  exponent : Option ExponentText := none

/-- A sign in a text. -/
def signText : Option Bool → List Char
  | none => []
  | some negative => [if negative then '-' else '+']

namespace NumberText

/-- The exponent of a number in a text. -/
def exponentText : Option ExponentText → List Char
  | none => []
  | some e => e.mark :: (signText e.sign ++ e.digits)

/-- What follows the sign of a number. -/
def body (n : NumberText) : List Char :=
  n.whole ++ (Numeral.fractionCode n.fraction ++ exponentText n.exponent)

/-- The text of a number. -/
def text (n : NumberText) : List Char := signText n.sign ++ n.body

/-- The grammar of numbers with digits of a class. -/
structure IsNumber (isDigit : Char → Bool) (n : NumberText) : Prop where
  isDigit_of_whole : ∀ c ∈ n.whole, isDigit c = true
  isDigit_of_fraction : ∀ ds ∈ n.fraction, ∀ c ∈ ds, isDigit c = true
  hasDigit : n.whole ≠ [] ∨ ∃ ds ∈ n.fraction, ds ≠ []
  isExponent : ∀ e ∈ n.exponent, e.mark ∈ ['e', 'E'] ∧ e.digits ≠ [] ∧
    ∀ c ∈ e.digits, isDigit c = true

/-- Whether a number has a minus in front. -/
def isNegative (n : NumberText) : Bool := n.sign.getD false

/-- Whether a number has neither point nor exponent. -/
def isInteger (n : NumberText) : Bool := n.fraction.isNone && n.exponent.isNone

/-- The number with its digits in ASCII. -/
def ascii (n : NumberText) : NumberText where
  sign := n.sign
  whole := n.whole.map asciiDigit
  fraction := n.fraction.map (·.map asciiDigit)
  exponent := n.exponent.map fun e => { e with digits := e.digits.map asciiDigit }

/-- The number as a numeral, without its sign. -/
def numeral (n : NumberText) : Numeral where
  whole := n.whole
  fraction := n.fraction
  exponent := n.exponent.map fun e => (e.sign.getD false, e.digits)

/-- What a number denotes without its sign. -/
def magnitude (n : NumberText) : Rat := n.ascii.numeral.value

/-- What a number denotes. -/
def value (n : NumberText) : Rat := if n.isNegative then -n.magnitude else n.magnitude

/-- Whether a number is an integer with more digits than can be read. -/
def IsTooLong (n : NumberText) : Prop := n.isInteger = true ∧ digitLimit < n.whole.length

/-- Whether a number is rounded, and lies beyond the greatest number of the format. -/
def IsTooLarge (n : NumberText) : Prop := n.isInteger = false ∧ overflowBound ≤ n.magnitude

end NumberText

/-! ## Parts of numbers -/

theorem isDecimal_of_isDigit {c : Char} (h : c.isDigit = true) : isDecimal c = true := by
  have hle : c.toNat ≤ 57 := (Char.isDigit_iff_toNat.1 h).2
  rw [isDecimal, decimalValue, if_pos (by omega), if_pos h]
  rfl

/-- The marks in numbers are no digits, and stay what they are. -/
theorem mark_facts {c : Char} (hc : c ∈ ['+', '-', '.', 'e', 'E']) :
    isDecimal c = false ∧ asciiDigit c = c ∧ (c.isDigit || c == '_') = false := by
  simp only [List.mem_cons, List.not_mem_nil, or_false] at hc
  rcases hc with rfl | rfl | rfl | rfl | rfl
  all_goals decide

/-- What ends the digits of a number is a mark. -/
theorem mem_marks {c : Char} (hc : c ∈ ['.', 'e', 'E']) : c ∈ ['+', '-', '.', 'e', 'E'] :=
  List.mem_cons_of_mem _ (List.mem_cons_of_mem _ hc)

/-- A sign is taken off the front of a text that begins with none. -/
theorem sign_signText {s : List Char} (hs : ∀ c ∈ s.head?, c ∉ ['-', '+']) (o : Option Bool) :
    sign (signText o ++ s) = (o.getD false, s) := by
  cases o with
  | some negative =>
      cases negative with
      | true => rfl
      | false => rfl
  | none =>
      cases s with
      | nil => rfl
      | cons c s =>
          have hc := hs c rfl
          simp only [List.mem_cons, List.not_mem_nil, or_false, not_or] at hc
          exact sign_of_ne hc.1 hc.2 s

theorem exists_signText (s : List Char) : ∃ o, signText o ++ (sign s).2 = s := by
  unfold sign
  split
  · exact ⟨some true, rfl⟩
  · exact ⟨some false, rfl⟩
  · exact ⟨none, rfl⟩

theorem map_signText (o : Option Bool) : (signText o).map asciiDigit = signText o := by
  cases o with
  | none => rfl
  | some negative =>
      cases negative with
      | true => rfl
      | false => rfl

/-- Digits are no signs. -/
theorem head?_digits {ds : List Char} (hds : ∀ c ∈ ds, isDecimal c = true) :
    ∀ c ∈ ds.head?, c ∉ ['-', '+'] := by
  intro c hc hsign
  have hdigit := hds c (List.mem_of_mem_head? hc)
  have hmark : c ∈ ['+', '-', '.', 'e', 'E'] := by
    simp only [List.mem_cons, List.not_mem_nil, or_false] at hsign ⊢
    tauto
  rw [(mark_facts hmark).1] at hdigit
  cases hdigit

namespace NumberText

variable {n : NumberText} {isDigit : Char → Bool}

theorem IsNumber.mono {isDigit' : Char → Bool} (hn : n.IsNumber isDigit)
    (h : ∀ c, isDigit c = true → isDigit' c = true) : n.IsNumber isDigit' where
  isDigit_of_whole c hc := h c (hn.isDigit_of_whole c hc)
  isDigit_of_fraction ds hds c hc := h c (hn.isDigit_of_fraction ds hds c hc)
  hasDigit := hn.hasDigit
  isExponent e he :=
    let ⟨hmark, hne, hdigits⟩ := hn.isExponent e he
    ⟨hmark, hne, fun c hc => h c (hdigits c hc)⟩

/-- In ASCII a number keeps its form. -/
theorem IsNumber.ascii (hn : n.IsNumber isDecimal) : n.ascii.IsNumber Char.isDigit where
  isDigit_of_whole := List.forall_mem_map.2 fun c hc =>
    isDigit_asciiDigit (hn.isDigit_of_whole c hc)
  isDigit_of_fraction ds hds := by
    obtain ⟨ds, hfraction, rfl⟩ := Option.map_eq_some_iff.1 hds
    exact List.forall_mem_map.2 fun c hc =>
      isDigit_asciiDigit (hn.isDigit_of_fraction ds hfraction c hc)
  hasDigit := by
    refine hn.hasDigit.imp (fun h => by simpa [NumberText.ascii] using h) ?_
    rintro ⟨ds, hds, hne⟩
    exact ⟨ds.map asciiDigit, Option.mem_map_of_mem _ hds, by simpa using hne⟩
  isExponent e he := by
    obtain ⟨e, hexponent, rfl⟩ := Option.map_eq_some_iff.1 he
    obtain ⟨hmark, hne, hdigits⟩ := hn.isExponent e hexponent
    exact ⟨hmark, by simpa using hne, List.forall_mem_map.2 fun c hc =>
      isDigit_asciiDigit (hdigits c hc)⟩

theorem IsNumber.map_text (hn : n.IsNumber isDecimal) :
    n.text.map asciiDigit = n.ascii.text := by
  -- signs, the point and the letter are written in ASCII already, so only digits change
  have hexponent : (exponentText n.exponent).map asciiDigit = exponentText n.ascii.exponent := by
    cases he : n.exponent with
    | none => rw [NumberText.ascii, he]; rfl
    | some e =>
        have hmark : e.mark ∈ ['+', '-', '.', 'e', 'E'] :=
          mem_marks (List.mem_cons_of_mem _ (hn.isExponent e he).1)
        rw [NumberText.ascii, he, exponentText, List.map_cons, List.map_append, map_signText,
          (mark_facts hmark).2.1]
        rfl
  have hfraction : (Numeral.fractionCode n.fraction).map asciiDigit =
      Numeral.fractionCode n.ascii.fraction := by
    cases hds : n.fraction with
    | none => rw [NumberText.ascii, hds]; rfl
    | some ds =>
        rw [NumberText.ascii, hds, Numeral.fractionCode, List.map_cons,
          (mark_facts (c := '.') (by simp)).2.1]
        rfl
  rw [text, text, body, body, List.map_append, List.map_append, List.map_append, map_signText,
    hfraction, hexponent]
  rfl

/-! ## Where parts begin -/

/-- The mark of an exponent ends digits. -/
theorem IsNumber.head?_exponentText (hn : n.IsNumber isDigit) :
    ∀ c ∈ (exponentText n.exponent).head?, c ∈ ['e', 'E'] := by
  intro c hc
  cases he : n.exponent with
  | none =>
      rw [he] at hc
      cases hc
  | some e =>
      rw [he] at hc
      cases hc
      exact (hn.isExponent e he).1

/-- A point or the mark of an exponent ends digits. -/
theorem IsNumber.head?_rest (hn : n.IsNumber isDigit) :
    ∀ c ∈ (Numeral.fractionCode n.fraction ++ exponentText n.exponent).head?,
      c ∈ ['.', 'e', 'E'] := by
  cases n.fraction with
  | none =>
      intro c hc
      exact List.mem_cons_of_mem _ (hn.head?_exponentText c hc)
  | some ds =>
      intro c hc
      cases hc
      exact List.mem_cons_self

/-- What no mark is, does not go on behind digits. -/
theorem any_head?_of_mem {p : Char → Bool} {marks s : List Char}
    (hp : ∀ c ∈ marks, p c = false) (hs : ∀ c ∈ s.head?, c ∈ marks) : s.head?.any p = false := by
  cases s with
  | nil => rfl
  | cons c s => exact hp c (hs c rfl)

/-- Behind its sign a number begins with a digit or the point. -/
theorem IsNumber.exists_head (hn : n.IsNumber isDigit) :
    ∃ c s, n.body = c :: s ∧ (isDigit c = true ∨ c = '.') := by
  cases hwhole : n.whole with
  | cons c ds =>
      refine ⟨c, ds ++ _, by rw [body, hwhole]; rfl, .inl (hn.isDigit_of_whole c ?_)⟩
      rw [hwhole]
      exact List.mem_cons_self
  | nil =>
      obtain h | ⟨ds, hds, -⟩ := hn.hasDigit
      · exact absurd hwhole h
      · have hfraction : n.fraction = some ds := hds
        exact ⟨'.', ds ++ exponentText n.exponent, by rw [body, hwhole, hfraction]; rfl, .inr rfl⟩

theorem IsNumber.sign_text (hn : n.IsNumber isDecimal) :
    Reading.sign n.text = (n.isNegative, n.body) := by
  obtain ⟨c, s, hbody, hc⟩ := hn.exists_head
  refine sign_signText ?_ n.sign
  rw [hbody]
  intro d hd
  cases hd
  obtain hc | rfl := hc
  · have hdigits : ∀ d ∈ [c], isDecimal d = true := by simpa using hc
    exact head?_digits hdigits c rfl
  · decide

end NumberText

/-! ## Reading -/

/-- The digits of a class behind a point, and what follows them. -/
def afterPoint (isDigit : Char → Bool) (s : List Char) : List Char × List Char :=
  match s with
  | '.' :: r => r.span isDigit
  | r => ([], r)

/-- The exponent that ends a number. -/
def exponentOf? (s : List Char) : Option Int :=
  match s with
  | [] => some 0
  | e :: r =>
    if e == 'e' || e == 'E' then
      let (negative, ds) := sign r
      (digits? ds).map fun ds => if negative then -(natOf ds : Int) else natOf ds
    else none

theorem unsigned?_eq (negative : Bool) (s : List Char) :
    unsigned? negative s =
      let (whole, rest) := s.span fun c => c.isDigit || c == '_'
      let (fraction, rest) := afterPoint (fun c => c.isDigit || c == '_') rest
      match digitsOrNone? whole, digitsOrNone? fraction, exponentOf? rest with
      | some w, some f, some e =>
        if w.isEmpty && f.isEmpty then none else some (scaled negative (w ++ f) (e - f.length))
      | _, _, _ => none := rfl

theorem digitsOrNone?_of_all {ds : List Char} (hds : ∀ c ∈ ds, c.isDigit = true) :
    digitsOrNone? ds = some ds := by
  cases ds with
  | nil => rfl
  | cons c ds => exact digits?_of_all (List.cons_ne_nil c ds) hds

namespace NumberText

variable {n : NumberText} {isDigit : Char → Bool}

theorem IsNumber.span_body (hn : n.IsNumber isDigit)
    (hmarks : ∀ c ∈ ['.', 'e', 'E'], isDigit c = false) :
    n.body.span isDigit =
      (n.whole, Numeral.fractionCode n.fraction ++ exponentText n.exponent) :=
  span_append hn.isDigit_of_whole (any_head?_of_mem hmarks hn.head?_rest)

theorem IsNumber.afterPoint_rest (hn : n.IsNumber isDigit)
    (hmarks : ∀ c ∈ ['.', 'e', 'E'], isDigit c = false) :
    afterPoint isDigit (Numeral.fractionCode n.fraction ++ exponentText n.exponent) =
      (n.fraction.getD [], exponentText n.exponent) := by
  -- What follows the fraction begins with no digit.
  have hhead : ∀ c ∈ (exponentText n.exponent).head?, c ∈ ['.', 'e', 'E'] :=
    fun c hc => List.mem_cons_of_mem _ (hn.head?_exponentText c hc)
  cases hfraction : n.fraction with
  | some ds =>
      exact span_append (hn.isDigit_of_fraction ds hfraction) (any_head?_of_mem hmarks hhead)
  | none =>
      unfold afterPoint Numeral.fractionCode
      rw [List.nil_append]
      split
      · rename_i r heq
        have hpoint : '.' ∈ ['e', 'E'] := hn.head?_exponentText '.' (by rw [heq]; rfl)
        exact absurd hpoint (by decide)
      · rfl

theorem IsNumber.exponentOf?_exponentText (hn : n.IsNumber Char.isDigit) :
    exponentOf? (exponentText n.exponent) =
      some (n.numeral.power + (n.fraction.getD []).length) := by
  rw [Numeral.power, numeral, Int.sub_add_cancel]
  cases hexponent : n.exponent with
  | none => rfl
  | some e =>
      obtain ⟨hmark, hne, hdigits⟩ := hn.isExponent e hexponent
      have hmark : (e.mark == 'e' || e.mark == 'E') = true := by simpa using hmark
      have hsign := sign_signText (head?_digits fun c hc => isDecimal_of_isDigit (hdigits c hc))
        e.sign
      rw [exponentText, exponentOf?, if_pos hmark, hsign]
      dsimp only
      rw [digits?_of_all hne hdigits]
      rfl

/-- Not both the digits in front of the point and those behind it are missing. -/
theorem IsNumber.isEmpty_and_isEmpty (hn : n.IsNumber isDigit) :
    (n.whole.isEmpty && (n.fraction.getD []).isEmpty) = false := by
  rw [Bool.and_eq_false_iff]
  refine hn.hasDigit.imp (fun h => by simpa using h) ?_
  rintro ⟨ds, hds, hne⟩
  rw [Option.mem_def.1 hds]
  simpa using hne

theorem IsNumber.isDigit_of_mem_getD (hn : n.IsNumber isDigit) :
    ∀ c ∈ n.fraction.getD [], isDigit c = true := by
  cases hfraction : n.fraction with
  | none => simp
  | some ds => exact hn.isDigit_of_fraction ds hfraction

/-- A number in ASCII is read as its digits, scaled. -/
theorem IsNumber.unsigned?_body (hn : n.IsNumber Char.isDigit) (negative : Bool) :
    unsigned? negative n.body =
      some (scaled negative (n.whole ++ n.fraction.getD []) n.numeral.power) := by
  have hmarks : ∀ c ∈ ['.', 'e', 'E'], (c.isDigit || c == '_') = false :=
    fun c hc => (mark_facts (mem_marks hc)).2.2
  -- the digits may have low lines among them, and have none
  have hlow : n.IsNumber fun c => c.isDigit || c == '_' :=
    hn.mono fun c hc => by rw [hc, Bool.true_or]
  rw [unsigned?_eq, hlow.span_body hmarks]
  dsimp only
  rw [hlow.afterPoint_rest hmarks]
  dsimp only
  rw [digitsOrNone?_of_all hn.isDigit_of_whole, digitsOrNone?_of_all hn.isDigit_of_mem_getD,
    hn.exponentOf?_exponentText]
  dsimp only
  rw [hn.isEmpty_and_isEmpty, if_neg Bool.false_ne_true, Int.add_sub_cancel]

/-- Every number is rounded. -/
theorem exists_roundsTo (n : NumberText) : ∃ m e, RoundsTo n.magnitude m e := by
  have hnonneg : 0 ≤ n.magnitude := by
    rw [magnitude, Numeral.value]
    positivity
  obtain hpos | hzero := hnonneg.lt_or_eq
  · exact RoundsTo.exists_of_pos hpos
  · exact ⟨_, _, hzero ▸ RoundsTo.zero⟩

/-- Digits and the point are none of the letters that words begin with. -/
theorem toLower_eq_self {c : Char} (h : c.toNat < 65) : c.toLower = c := by
  refine dif_neg ?_
  rintro ⟨hge, -⟩
  have hle : 'A'.toNat ≤ c.toNat := UInt32.le_iff_toNat_le.1 hge
  exact absurd hle (Nat.not_le.2 h)

/-- **A trimmed number is read as what its digits in ASCII denote, rounded.** -/
theorem IsNumber.float?_text (hn : n.IsNumber isDecimal) (hstrip : strip n.text = n.text) {m : Nat}
    {e : Int} (h : RoundsTo n.magnitude m e) :
    float? n.text = some (Double.bounded n.isNegative m e) := by
  have hascii := hn.ascii
  have hsign : Reading.sign n.ascii.text = (n.isNegative, n.ascii.body) :=
    (hascii.mono fun c => isDecimal_of_isDigit).sign_text
  -- a number begins with a digit or a point, and no special word does
  have hword {w : String} (hw : w.toList.head?.any (65 ≤ ·.toNat) = true) :
      (String.ofList (n.ascii.body.map Char.toLower) == w) = false := by
    obtain ⟨c, s, hbody, hc⟩ := hascii.exists_head
    have hlt : c.toNat < 65 := by
      obtain hc | rfl := hc
      · have hle : c.toNat ≤ 57 := (Char.isDigit_iff_toNat.1 hc).2
        omega
      · decide
    refine beq_false_of_ne fun heq => ?_
    rw [hbody, List.map_cons, toLower_eq_self hlt] at heq
    rw [← heq, String.toList_ofList, List.head?_cons, Option.any_some, decide_eq_true_eq] at hw
    omega
  have hdigits := isDigit_of_mem_append hascii.isDigit_of_whole hascii.isDigit_of_mem_getD
  rw [float?, plain_of_strip hstrip, hn.map_text, hsign]
  dsimp only
  rw [hword (by decide), hword (by decide), hword (by decide), hascii.unsigned?_body,
    scaled_of_roundsTo n.isNegative hdigits h]
  rfl

/-! ### Integers -/

theorem isInteger_iff :
    n.isInteger = true ↔ n.fraction = none ∧ n.exponent = none := by
  rw [isInteger, Bool.and_eq_true, Option.isNone_iff_eq_none, Option.isNone_iff_eq_none]

theorem IsNumber.whole_ne_nil (hn : n.IsNumber isDigit) (hinteger : n.isInteger = true) :
    n.whole ≠ [] := by
  refine hn.hasDigit.resolve_right ?_
  rintro ⟨ds, hds, -⟩
  rw [(isInteger_iff.1 hinteger).1] at hds
  cases hds

theorem body_of_isInteger (hinteger : n.isInteger = true) : n.body = n.whole := by
  obtain ⟨hfraction, hexponent⟩ := isInteger_iff.1 hinteger
  rw [body, hfraction, hexponent]
  exact List.append_nil _

theorem magnitude_of_isInteger (hinteger : n.isInteger = true) :
    n.magnitude = natOf (n.whole.map asciiDigit) := by
  obtain ⟨hfraction, hexponent⟩ := isInteger_iff.1 hinteger
  rw [magnitude, Numeral.value, Numeral.power, numeral, NumberText.ascii, hfraction, hexponent]
  simp

/-- **A trimmed integer is read as what it denotes, unless it is too long.** -/
theorem IsNumber.int_text (hn : n.IsNumber isDecimal) (hstrip : strip n.text = n.text)
    (hinteger : n.isInteger = true) :
    (digitLimit < n.whole.length ∧ int n.text = .tooLong n.whole.length) ∨
      (n.whole.length ≤ digitLimit ∧ ∃ k : Int, int n.text = .ok k ∧ (k : Rat) = n.value) := by
  have hsign := hn.sign_text
  rw [body_of_isInteger hinteger] at hsign
  have hint := int_of_digits hstrip (by rw [hsign]; exact hn.whole_ne_nil hinteger)
    (by rw [hsign]; exact hn.isDigit_of_whole)
  rw [hsign] at hint
  refine hint.imp id fun ⟨hshort, hint⟩ => ⟨hshort, _, hint, ?_⟩
  rw [value, magnitude_of_isInteger hinteger]
  split_ifs
  · push_cast
    rfl
  · push_cast
    rfl

end NumberText

end Curly.Reading
