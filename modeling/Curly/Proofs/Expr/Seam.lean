import Curly.Proofs.Expr.Row
import Curly.Proofs.Term.Literal
import Mathlib.Data.Bool.AllAny

/-!
Seams of code. Where code ends with a character that goes on in no word and no number, what is put
behind it begins a lexeme of its own, unless this is a digit behind a sign that may belong to an
exponent. So a blank can be put there, and the lexer goes through the code as before.
-/

namespace Curly.Lexeme

open Shorthand (quotes)

variable {α β : Type} {s t u v w X Y : List Char}

/-! ## Numbers that end in front of a seam -/

/-- Whether code ends with a character that goes on in no word and no number. -/
def Closes (s : List Char) : Prop := ∃ c ∈ s.getLast?, isNameChar c = false ∧ c ≠ '.'

theorem Closes.ne_nil (h : Closes s) : s ≠ [] := by
  rintro rfl
  obtain ⟨c, hc, -⟩ := h
  cases hc

theorem Closes.of_suffix (h : Closes s) (hsuffix : w <:+ s) (hne : w ≠ []) : Closes w := by
  obtain ⟨u, rfl⟩ := hsuffix
  obtain ⟨c, hc, hclosed⟩ := h
  rw [List.getLast?_append_of_ne_nil _ hne] at hc
  exact ⟨c, hc, hclosed⟩

theorem Closes.tail {c : Char} (h : Closes (c :: s)) (hc : isNameChar c = true ∨ c = '.') :
    Closes s := by
  refine h.of_suffix (List.suffix_cons c s) ?_
  rintro rfl
  obtain ⟨d, hd, hname, hpoint⟩ := h
  obtain rfl : c = d := Option.some.inj hd
  obtain hc | rfl := hc
  · rw [hc] at hname
    cases hname
  · exact hpoint rfl

/-- What is true of name characters only in ASCII is true of no others. -/
theorem isNameChar_of_ascii {p : Char → Bool}
    (h : ∀ n < 128, p (Char.ofNat n) = true → isNameChar (Char.ofNat n) = true) (c : Char)
    (hc : p c = true) : isNameChar c = true := by
  obtain hlt | hle := Nat.lt_or_ge c.toNat 128
  · have hchar := h c.toNat hlt
    rw [Char.ofNat_toNat] at hchar
    exact hchar hc
  · simp [isNameChar, hle]

theorem isNameChar_of_isDigit : ∀ c : Char, c.isDigit = true → isNameChar c = true :=
  isNameChar_of_ascii (by decide)

/-- Whether a character may be a part of a number. -/
def isNumeralChar (c : Char) : Bool := isNameChar c || c == '.' || c == '+' || c == '-'

/-- Whether a text is read alike in front of another one, of which nothing is read with it. -/
structure StopsWithin (f : List Char → Option (α × List Char)) (s t : List Char) : Prop where
  eq : f (s ++ t) = (f s).map fun (x, w) => (x, w ++ t)
  stops : ∀ x w, f s = some (x, w) →
    Closes w ∧ ∃ u, s = u ++ w ∧ ∀ c ∈ u, isNumeralChar c = true

theorem StopsWithin.bind {f : List Char → Option (α × List Char)}
    {k : α × List Char → Option (β × List Char)} (hf : StopsWithin f s t)
    (hk : ∀ x w, f s = some (x, w) → StopsWithin (fun w => k (x, w)) w t) :
    StopsWithin (fun s => (f s).bind k) s t where
  eq := by
    rw [hf.eq]
    cases h : f s with
    | none => rfl
    | some found =>
        obtain ⟨x, w⟩ := found
        exact (hk x w h).eq
  stops := by
    intro y r h
    obtain ⟨⟨x, w⟩, hfound, hnext⟩ := Option.bind_eq_some_iff.1 h
    obtain ⟨-, u, rfl, hu⟩ := hf.stops x w hfound
    obtain ⟨hr, v, rfl, hv⟩ := (hk x w hfound).stops y r hnext
    exact ⟨hr, u ++ v, (List.append_assoc ..).symm, List.forall_mem_append.2 ⟨hu, hv⟩⟩

theorem StopsWithin.map {f : List Char → Option (α × List Char)} (hf : StopsWithin f s t)
    (g : α → β) : StopsWithin (fun s => (f s).map fun (x, w) => (g x, w)) s t where
  eq := by
    rw [hf.eq]
    cases f s <;> rfl
  stops := by
    intro y r h
    obtain ⟨⟨x, w'⟩, hfound, heq⟩ := Option.map_eq_some_iff.1 h
    cases heq
    exact hf.stops x _ hfound

/-- One character is read, and then what follows it. -/
theorem StopsWithin.cons {f g : List Char → Option (α × List Char)} {c : Char}
    (hf : StopsWithin f s t) (hc : isNumeralChar c = true)
    (hg : ∀ t, g (c :: (s ++ t)) = f (s ++ t)) : StopsWithin g (c :: s) t where
  eq := by
    have hnil := hg []
    rw [List.append_nil] at hnil
    rw [List.cons_append, hg, hnil, hf.eq]
  stops := by
    have hnil := hg []
    rw [List.append_nil] at hnil
    intro x w h
    rw [hnil] at h
    obtain ⟨hw, u, rfl, hu⟩ := hf.stops x w h
    exact ⟨hw, c :: u, rfl, List.forall_mem_cons.2 ⟨hc, hu⟩⟩

theorem StopsWithin.congr {f g : List Char → Option (α × List Char)} (hf : StopsWithin f s t)
    (h : ∀ t, g (s ++ t) = f (s ++ t)) : StopsWithin g s t where
  eq := by
    have hnil := h []
    rw [List.append_nil] at hnil
    rw [h, hnil, hf.eq]
  stops := by
    have hnil := h []
    rw [List.append_nil] at hnil
    rw [hnil]
    exact hf.stops

theorem isNumeralChar_of_isNameChar {c : Char} (h : isNameChar c = true) :
    isNumeralChar c = true := by
  simp [isNumeralChar, h]

theorem StopsWithin.of_none {f : List Char → Option (α × List Char)}
    (h : ∀ v ∈ [[], t], f (s ++ v) = none) : StopsWithin f s t where
  eq := by
    have hs := h [] List.mem_cons_self
    rw [List.append_nil] at hs
    rw [h t (List.mem_cons_of_mem _ List.mem_cons_self), hs]
    rfl
  stops := by
    have hs := h [] List.mem_cons_self
    rw [List.append_nil] at hs
    rw [hs]
    exact nofun

theorem StopsWithin.of_some {f : List Char → Option (α × List Char)} {x : α} (hs : Closes s)
    (h : ∀ t, f (s ++ t) = some (x, s ++ t)) : StopsWithin f s t where
  eq := by
    have hnil := h []
    rw [List.append_nil] at hnil
    rw [h, hnil]
    rfl
  stops := by
    have hnil := h []
    rw [List.append_nil] at hnil
    intro y w hfound
    rw [hnil] at hfound
    cases hfound
    exact ⟨hs, [], rfl, nofun⟩

/-- The digits at a front stop at a character that goes on in no word. -/
theorem stopsWithin_digitRun? {p : Char → Bool} (hp : ∀ c, p c = true → isNameChar c = true)
    (hs : Closes s) (t : List Char) : StopsWithin (digitRun? p) s t := by
  fun_induction digitRun? p s with
  | case1 => exact absurd rfl hs.ne_nil
  | case2 => exact absurd rfl (hs.tail (.inl (by decide))).ne_nil
  | case3 d r hd ih =>
      have hrest := (hs.tail (.inl (by decide))).tail (.inl (hp d hd))
      refine StopsWithin.cons (f := fun r => digitRun? p ('_' :: r)) ?_ (by decide) fun _ => rfl
      refine ((ih hrest).map (d :: ·)).cons (isNumeralChar_of_isNameChar (hp d hd)) fun r => ?_
      rw [digitRun?, if_pos hd]
  | case4 d r hd =>
      refine .of_none fun t _ => ?_
      rw [List.cons_append, List.cons_append, digitRun?, if_neg hd]
  | case5 c r hlow hc ih =>
      have hrest := hs.tail (.inl (hp c hc))
      refine ((ih hrest).map (c :: ·)).cons (isNumeralChar_of_isNameChar (hp c hc)) fun r => ?_
      rw [digitRun?, if_pos hc]
      exact hlow
  | case6 c r hlow hc =>
      refine .of_some (x := []) hs fun t => ?_
      rw [List.cons_append, digitRun?, if_neg hc]
      exact hlow

/-- The digits at a front end with a digit, if there are any. -/
theorem exists_of_digitRun? {ds : List Char} (h : digitRun? Char.isDigit s = some (ds, w)) :
    s = w ∨ ∃ u d, s = u ++ d :: w ∧ d.isDigit = true := by
  fun_induction digitRun? Char.isDigit s generalizing ds with
  | case1 =>
      cases h
      exact .inl rfl
  | case2 => cases h
  | case3 d r hd ih =>
      obtain ⟨⟨es, v⟩, hrest, heq⟩ := Option.map_eq_some_iff.1 h
      cases heq
      obtain rfl | ⟨u, e, rfl, he⟩ := ih hrest
      · -- an underscore is taken only with the digit behind it, so it is never the last
        exact .inr ⟨['_'], d, rfl, hd⟩
      · exact .inr ⟨'_' :: d :: u, e, rfl, he⟩
  | case4 => cases h
  | case5 c r hlow hc ih =>
      obtain ⟨⟨es, v⟩, hrest, heq⟩ := Option.map_eq_some_iff.1 h
      cases heq
      obtain rfl | ⟨u, e, rfl, he⟩ := ih hrest
      · exact .inr ⟨[], c, rfl, hc⟩
      · exact .inr ⟨c :: u, e, rfl, he⟩
  | case6 =>
      cases h
      exact .inl rfl

/-! ### Exponents -/

/-- Whether a text ends with the front of an exponent, up to its sign, that a number may have. -/
def EndsExponent (s : List Char) : Prop :=
  ∃ u d e g, s = u ++ [d, e, g] ∧ (d.isDigit = true ∨ d = '.') ∧ (e = 'e' ∨ e = 'E') ∧
    (g = '+' ∨ g = '-')

theorem head?_append_of_closes (hs : Closes s) (t : List Char) : (s ++ t).head? = s.head? := by
  cases s with
  | nil => exact absurd rfl hs.ne_nil
  | cons c s => rfl

/-- A word that does not reach over a seam is in front of a text, or not, whatever is behind. -/
theorem isPrefixOf_append {word : List Char} (h : ∀ v, v ≠ [] → word = s ++ v → ¬v <+: t) :
    word.isPrefixOf (s ++ t) = word.isPrefixOf s := by
  rw [Bool.eq_iff_iff, List.isPrefixOf_iff_prefix, List.isPrefixOf_iff_prefix]
  refine ⟨fun hprefix => ?_, fun hprefix => hprefix.trans (List.prefix_append s t)⟩
  obtain hle | hlt := Nat.lt_or_ge s.length word.length |>.symm
  · exact List.prefix_of_prefix_length_le hprefix (List.prefix_append s t) hle
  · obtain ⟨v, rfl⟩ := List.prefix_of_prefix_length_le (List.prefix_append s t) hprefix hlt.le
    have hne : v ≠ [] := by
      rintro rfl
      simp at hlt
    exact absurd ((List.prefix_append_right_inj s).1 hprefix) (h v hne rfl)

/-- The same for a word of name characters and a text that closes. -/
theorem isPrefixOf_append_of_closes {word : List Char} (hword : ∀ c ∈ word, isNameChar c = true)
    (hs : Closes s) (t : List Char) : word.isPrefixOf (s ++ t) = word.isPrefixOf s := by
  refine isPrefixOf_append fun v _ heq _ => ?_
  obtain ⟨c, hc, hclosed, -⟩ := hs
  have hmem : c ∈ word := heq ▸ List.mem_append_left v (List.mem_of_getLast? hc)
  rw [hword c hmem] at hclosed
  cases hclosed

theorem numberMayEnd_append (hs : Closes s) (t : List Char) :
    numberMayEnd (s ++ t) = numberMayEnd s := by
  have hwords : ∀ w ∈ ["and", "else", "for", "if", "in", "is", "or", "not"],
      w.toList.all isNameChar = true := by
    decide
  cases s with
  | nil => exact absurd rfl hs.ne_nil
  | cons c s =>
      -- Such a word is made of characters of names, and so it ends in front of the seam.
      have hany : (["and", "else", "for", "if", "in", "is", "or", "not"].any fun w =>
          w.toList.isPrefixOf (c :: s ++ t)) =
            ["and", "else", "for", "if", "in", "is", "or", "not"].any fun w =>
              w.toList.isPrefixOf (c :: s) := by
        rw [Bool.eq_iff_iff, List.any_eq_true, List.any_eq_true]
        refine exists_congr fun w => and_congr_right fun hw => ?_
        rw [isPrefixOf_append_of_closes (List.all_eq_true.1 (hwords w hw)) hs]
      rw [List.cons_append, numberMayEnd, numberMayEnd, ← List.cons_append, hany]

/-- The sign in front of an exponent. -/
def isSignChar (c : Char) : Bool := c == '+' || c == '-'

theorem sign_of_isSignChar {g : Char} (hg : isSignChar g = true) (r : List Char) :
    Reading.sign (g :: r) = (g == '-', r) := by
  rw [isSignChar, Bool.or_eq_true, beq_iff_eq, beq_iff_eq] at hg
  obtain rfl | rfl := hg <;> rfl

theorem sign_of_not_isSignChar {r : List Char} (hr : r.head?.any isSignChar = false) :
    Reading.sign r = (false, r) := by
  cases r with
  | nil => rfl
  | cons g r =>
      have hg : isSignChar g = false := hr
      rw [isSignChar, Bool.or_eq_false_iff, beq_eq_false_iff_ne, beq_eq_false_iff_ne] at hg
      rw [Reading.sign]
      · exact fun u hu => hg.2 (List.cons.inj hu).1
      · exact fun u hu => hg.1 (List.cons.inj hu).1

theorem exponent?_signed {e g : Char} (he : (e == 'e' || e == 'E') = true)
    (hg : isSignChar g = true) (r : List Char) :
    exponent? (e :: g :: r) =
      if r.head?.any Char.isDigit then
        (digitRun? Char.isDigit r).map fun (ds, w) => (some (g == '-', ds), w)
      else none := by
  have hhead : (g == '+' || g == '-') = true := hg
  rw [exponent?, if_pos he, sign_of_isSignChar hg, List.head?_cons, Option.any_some, hhead]
  dsimp only
  split
  · cases digitRun? Char.isDigit r <;> rfl
  · rfl

theorem exponent?_unsigned {e : Char} (he : (e == 'e' || e == 'E') = true) {r : List Char}
    (hr : r.head?.any isSignChar = false) :
    exponent? (e :: r) =
      if r.head?.any Char.isDigit then
        (digitRun? Char.isDigit r).map fun (ds, w) => (some (false, ds), w)
      else if numberMayEnd (e :: r) then some (none, e :: r) else none := by
  have hhead : (r.head?.any fun c => c == '+' || c == '-') = false := hr
  rw [exponent?, if_pos he, sign_of_not_isSignChar hr, hhead]
  dsimp only
  split
  · cases digitRun? Char.isDigit r <;> rfl
  · cases numberMayEnd (e :: r) <;> rfl

/-- The exponent at a front stops there, unless the front goes on with digits behind a sign. -/
theorem stopsWithin_exponent? (hs : Closes s)
    (ht : t.head?.any Char.isDigit = true →
      ¬∃ e g, s = [e, g] ∧ (e == 'e' || e == 'E') = true ∧ isSignChar g = true) :
    StopsWithin exponent? s t := by
  cases s with
  | nil => exact absurd rfl hs.ne_nil
  | cons e r =>
      cases he : e == 'e' || e == 'E' with
      | false =>
          refine .of_some (x := none) hs fun t => ?_
          rw [List.cons_append, exponent?, if_neg (by simp [he])]
      | true =>
          have hletter : isNameChar e = true := by
            rw [Bool.or_eq_true, beq_iff_eq, beq_iff_eq] at he
            obtain rfl | rfl := he <;> decide
          have hr := hs.tail (.inl hletter)
          cases hsign : r.head?.any isSignChar with
          | false =>
              have hhead (t : List Char) : (r ++ t).head? = r.head? := head?_append_of_closes hr t
              have hread (t : List Char) :=
                exponent?_unsigned he (r := r ++ t) (by rw [hhead, hsign])
              cases hdigit : r.head?.any Char.isDigit with
              | true =>
                  refine ((stopsWithin_digitRun? isNameChar_of_isDigit hr t).map
                    (fun ds => some (false, ds))).cons (isNumeralChar_of_isNameChar hletter)
                      fun t => ?_
                  rw [hread, hhead, if_pos hdigit]
              | false =>
                  have hend (t : List Char) := numberMayEnd_append hs t
                  cases hmay : numberMayEnd (e :: r) with
                  | true =>
                      refine .of_some (x := none) hs fun t => ?_
                      rw [List.cons_append, hread, hhead, if_neg (by simp [hdigit]),
                        ← List.cons_append, hend, if_pos hmay]
                  | false =>
                      refine .of_none fun t _ => ?_
                      rw [List.cons_append, hread, hhead, if_neg (by simp [hdigit]),
                        ← List.cons_append, hend, if_neg (by simp [hmay])]
          | true =>
              cases r with
              | nil => cases hsign
              | cons g r =>
                  have hg : isSignChar g = true := hsign
                  have hread (t : List Char) := exponent?_signed he hg (r ++ t)
                  have hnumeral : isNumeralChar g = true := by
                    rw [isSignChar, Bool.or_eq_true, beq_iff_eq, beq_iff_eq] at hg
                    obtain rfl | rfl := hg <;> decide
                  cases r with
                  | nil =>
                      -- the front ends with the sign, and no digits are behind
                      refine .of_none fun v hv => ?_
                      have hdigit : v.head?.any Char.isDigit = false := by
                        simp only [List.mem_cons, List.not_mem_nil, or_false] at hv
                        obtain rfl | rfl := hv
                        · rfl
                        · exact Bool.eq_false_iff.2 fun hv => ht hv ⟨e, g, rfl, he, hg⟩
                      have hnone := hread v
                      rw [List.nil_append, if_neg (by simp [hdigit])] at hnone
                      exact hnone
                  | cons d r =>
                      have hdr : Closes (d :: r) :=
                        hs.of_suffix ⟨[e, g], rfl⟩ (List.cons_ne_nil d r)
                      cases hdigit : d.isDigit with
                      | true =>
                          refine StopsWithin.cons (f := fun r => exponent? (e :: r)) ?_
                            (isNumeralChar_of_isNameChar hletter) fun _ => rfl
                          refine ((stopsWithin_digitRun? isNameChar_of_isDigit hdr t).map
                            (fun ds => some (g == '-', ds))).cons hnumeral fun t => ?_
                          rw [hread, List.cons_append, List.head?_cons, Option.any_some,
                            if_pos hdigit]
                      | false =>
                          refine .of_none fun t _ => ?_
                          rw [List.cons_append, List.cons_append, hread, List.cons_append,
                            List.head?_cons, Option.any_some, if_neg (by simp [hdigit])]

/-! ### Decimal numbers -/

/-- The whole part of a decimal number, perhaps without digits. -/
def wholePart? (s : List Char) : Option (List Char × List Char) :=
  if s.head?.any Char.isDigit then digitRun? Char.isDigit s else some ([], s)

/-- The fraction of a decimal number, if it has a point. -/
def fractionPart? (s : List Char) : Option (Option (List Char) × List Char) :=
  match s with
  | '.' :: t =>
    if t.head?.any Char.isDigit then
      (digitRun? Char.isDigit t).map fun (ds, rest) => (some ds, rest)
    else some (some [], t)
  | t => some (none, t)

theorem fractionPart?_of_ne (h : ∀ t, s ≠ '.' :: t) : fractionPart? s = some (none, s) := by
  unfold fractionPart?
  split
  · exact absurd rfl (h _)
  · rfl

/-- Whether a decimal number is imaginary, and what follows it. -/
def unit? (s : List Char) : Option (Bool × List Char) :=
  let imaginary := s.head?.any fun c => c == 'j' || c == 'J'
  let rest := if imaginary then s.drop 1 else s
  if numberMayEnd rest then some (imaginary, rest) else none

/-- What the parts of a decimal number stand for. -/
def decimalValue? (whole : List Char) (fraction : Option (List Char))
    (exponent : Option (Bool × List Char)) (imaginary : Bool) : Option Literal :=
  let digits := whole ++ fraction.getD []
  let power : Int :=
    (match exponent with
      | some (negative, ds) => if negative then -(Reading.natOf ds : Int) else Reading.natOf ds
      | none => 0) - (fraction.getD []).length
  if imaginary then some (.imaginary (Reading.scaled false digits power))
  else if fraction.isSome || exponent.isSome then
    some (.float (Reading.scaled false digits power))
  else if whole.head? == some '0' && whole.any (· != '0') then none
  else if Reading.digitLimit < whole.length then none
  else some (.int (Reading.natOf whole))

theorem bind_ite {f g : α → Option β} (p : Prop) [Decidable p] (o : Option α) (x : α)
    (h : ∀ x, f x = g x) :
    (if p then o >>= f else some x >>= f) = (if p then o else some x).bind g := by
  obtain rfl : f = g := funext h
  split <;> rfl

/-- A decimal number is read part by part. -/
theorem decimal?_eq (s : List Char) :
    decimal? s = (wholePart? s).bind fun (whole, s) => (fractionPart? s).bind fun (fraction, s) =>
      (exponent? s).bind fun (exponent, s) => (unit? s).bind fun (imaginary, s) =>
        (decimalValue? whole fraction exponent imaginary).map fun value => (value, s) := by
  rw [decimal?, wholePart?]
  refine bind_ite _ _ _ fun (whole, s) => ?_
  dsimp -zeta only
  extract_lets afterFraction
  -- what is done behind the fraction is the same with a fraction and without one
  have hafter (x : Option (List Char) × List Char) : afterFraction x =
      (exponent? x.2).bind fun (exponent, s) => (unit? s).bind fun (imaginary, s) =>
        (decimalValue? whole x.1 exponent imaginary).map fun value => (value, s) := by
    refine Option.bind_congr fun (exponent, s) _ => ?_
    dsimp only [unit?]
    generalize (if (s.head?.any fun c => c == 'j' || c == 'J') = true then s.drop 1 else s) = rest
    cases numberMayEnd rest with
    | false => rfl
    | true =>
        cases exponent <;>
          simp only [Bool.not_true, Bool.false_eq_true, if_false, if_true, Option.bind_some,
            decimalValue?, apply_ite (Option.map _), Option.map_some, Option.map_none]
  split
  · exact bind_ite _ _ _ hafter
  · rename_i hpoint
    rw [fractionPart?_of_ne hpoint]
    exact hafter (none, s)

theorem stopsWithin_wholePart? (hs : Closes s) (t : List Char) : StopsWithin wholePart? s t := by
  have hhead (t : List Char) : (s ++ t).head? = s.head? := head?_append_of_closes hs t
  cases hdigit : s.head?.any Char.isDigit with
  | true =>
      refine (stopsWithin_digitRun? isNameChar_of_isDigit hs t).congr fun t => ?_
      rw [wholePart?, hhead, if_pos hdigit]
  | false =>
      refine .of_some (x := []) hs fun t => ?_
      rw [wholePart?, hhead, if_neg (by simp [hdigit])]

theorem stopsWithin_fractionPart? (hs : Closes s) (t : List Char) :
    StopsWithin fractionPart? s t := by
  cases s with
  | nil => exact absurd rfl hs.ne_nil
  | cons c r =>
      by_cases hc : c = '.'
      · subst hc
        have hr := hs.tail (.inr rfl)
        -- the point is not the last character, so what follows it is in the front
        have hhead (t : List Char) : (r ++ t).head? = r.head? := head?_append_of_closes hr t
        cases hdigit : r.head?.any Char.isDigit with
        | true =>
            refine ((stopsWithin_digitRun? isNameChar_of_isDigit hr t).map some).cons (by decide)
              fun t => ?_
            rw [fractionPart?, hhead, if_pos hdigit]
        | false =>
            refine (StopsWithin.of_some (f := fun r => some (some [], r)) hr fun _ => rfl).cons
              (by decide) fun t => ?_
            rw [fractionPart?, hhead, if_neg (by simp [hdigit])]
      · refine .of_some (x := none) hs fun t => ?_
        exact fractionPart?_of_ne fun u heq => hc (List.cons.inj heq).1

theorem stopsWithin_unit? (hs : Closes s) (t : List Char) : StopsWithin unit? s t := by
  cases s with
  | nil => exact absurd rfl hs.ne_nil
  | cons c r =>
      cases hc : c == 'j' || c == 'J' with
      | true =>
          have hletter : isNameChar c = true := by
            rw [Bool.or_eq_true, beq_iff_eq, beq_iff_eq] at hc
            obtain rfl | rfl := hc <;> decide
          have hr := hs.tail (.inl hletter)
          -- whether the number may end is decided by a character of the front
          have hread (t : List Char) : unit? (c :: (r ++ t)) =
              if numberMayEnd r then some (true, r ++ t) else none := by
            rw [← numberMayEnd_append hr t]
            simp [unit?, hc]
          refine StopsWithin.cons (f := fun s => if numberMayEnd r then some (true, s) else none) ?_
            (isNumeralChar_of_isNameChar hletter) hread
          cases numberMayEnd r with
          | true => exact .of_some hr fun _ => rfl
          | false => exact .of_none fun _ _ => rfl
      | false =>
          have hread (t : List Char) : unit? (c :: r ++ t) =
              if numberMayEnd (c :: r) then some (false, c :: r ++ t) else none := by
            rw [← numberMayEnd_append hs t]
            simp [unit?, hc]
          cases hmay : numberMayEnd (c :: r) with
          | true =>
              refine .of_some (x := false) hs fun t => ?_
              rw [hread, if_pos hmay]
          | false =>
              refine .of_none fun t _ => ?_
              rw [hread, if_neg (by simp [hmay])]

/-- In front of an exponent stands a digit or the point, if anything. -/
theorem eq_or_exists_of_wholePart? {ds : List Char} (h : wholePart? s = some (ds, w)) :
    s = w ∨ ∃ u d, s = u ++ d :: w ∧ (d.isDigit = true ∨ d = '.') := by
  rw [wholePart?] at h
  split at h
  · obtain rfl | ⟨u, d, rfl, hd⟩ := exists_of_digitRun? h
    · exact .inl rfl
    · exact .inr ⟨u, d, rfl, .inl hd⟩
  · cases h
    exact .inl rfl

theorem eq_or_exists_of_fractionPart? {ds : Option (List Char)}
    (h : fractionPart? s = some (ds, w)) :
    s = w ∨ ∃ u d, s = u ++ d :: w ∧ (d.isDigit = true ∨ d = '.') := by
  unfold fractionPart? at h
  split at h
  · split at h
    · obtain ⟨⟨es, r⟩, hrun, heq⟩ := Option.map_eq_some_iff.1 h
      cases heq
      obtain rfl | ⟨u, d, rfl, hd⟩ := exists_of_digitRun? hrun
      · exact .inr ⟨[], '.', rfl, .inr rfl⟩
      · exact .inr ⟨'.' :: u, d, rfl, .inl hd⟩
    · cases h
      exact .inr ⟨[], '.', rfl, .inr rfl⟩
  · cases h
    exact .inl rfl

/-- Whether a character begins a number. -/
def BeginsNumber (s : List Char) : Prop := ∃ c ∈ s.head?, c.isDigit = true ∨ c = '.'

theorem stopsWithin_decimal? (hs : Closes s) (hbegins : BeginsNumber s)
    (ht : t.head?.any Char.isDigit = true → ¬EndsExponent s) : StopsWithin decimal? s t := by
  rw [funext decimal?_eq]
  refine (stopsWithin_wholePart? hs t).bind fun whole r hwhole => ?_
  have hr := ((stopsWithin_wholePart? hs t).stops whole r hwhole).1
  refine (stopsWithin_fractionPart? hr t).bind fun fraction v hfraction => ?_
  have hv := ((stopsWithin_fractionPart? hr t).stops fraction v hfraction).1
  -- only the exponent looks past the front: if the front ends in the letter and a sign, these stand
  -- behind a digit or a point, and then no digit comes next
  have hexponent : StopsWithin exponent? v t := by
    refine stopsWithin_exponent? hv fun hdigit => ?_
    rintro ⟨e, g, rfl, he, hg⟩
    rw [Bool.or_eq_true, beq_iff_eq, beq_iff_eq] at he
    rw [isSignChar, Bool.or_eq_true, beq_iff_eq, beq_iff_eq] at hg
    have hends {u : List Char} {d : Char} (hd : d.isDigit = true ∨ d = '.') :
        EndsExponent (u ++ d :: [e, g]) := ⟨u, d, e, g, rfl, hd, he, hg⟩
    have hnot := ht hdigit
    obtain rfl | ⟨u, d, rfl, hd⟩ := eq_or_exists_of_wholePart? hwhole
    · obtain rfl | ⟨u, d, rfl, hd⟩ := eq_or_exists_of_fractionPart? hfraction
      · obtain ⟨c, hc, hbegins⟩ := hbegins
        obtain rfl := Option.some.inj hc
        obtain rfl | rfl := he
        · exact absurd hbegins (by decide)
        · exact absurd hbegins (by decide)
      · exact hnot (hends hd)
    · obtain rfl | ⟨u', d', rfl, hd'⟩ := eq_or_exists_of_fractionPart? hfraction
      · exact hnot (hends hd)
      · refine hnot ?_
        have hsplit : u ++ d :: (u' ++ d' :: [e, g]) = u ++ d :: u' ++ d' :: [e, g] := by simp
        rw [hsplit]
        exact hends hd'
  refine hexponent.bind fun exponent w hread => ?_
  have hw := (hexponent.stops exponent w hread).1
  refine (stopsWithin_unit? hw t).bind fun imaginary z hunit => ?_
  have hz := ((stopsWithin_unit? hw t).stops imaginary z hunit).1
  dsimp only
  cases decimalValue? whole fraction exponent imaginary with
  | none => exact .of_none fun _ _ => rfl
  | some value => exact .of_some hz fun _ => rfl

/-! ### Numbers -/

theorem stopsWithin_based? {p : Char → Bool} (base : Nat)
    (hp : ∀ c, p c = true → isNameChar c = true) (hs : Closes s) (t : List Char) :
    StopsWithin (based? base p) s t := by
  have hrun := stopsWithin_digitRun? hp hs t
  refine hrun.bind fun ds w hread => ?_
  have hw := (hrun.stops ds w hread).1
  have hhead (t : List Char) : (w ++ t).head? = w.head? := head?_append_of_closes hw t
  -- The tests see the first character that is left, and this one is in front of the seam.
  cases hbad : ds.isEmpty || (w.head?.any fun c => c.isDigit || c == '_') || !numberMayEnd w with
  | true =>
      refine .of_none fun t _ => ?_
      dsimp only
      rw [hhead, numberMayEnd_append hw, if_pos hbad]
  | false =>
      refine .of_some (x := .int (valueInBase base ds)) hw fun t => ?_
      dsimp only
      rw [hhead, numberMayEnd_append hw, if_neg (by simp [hbad])]

theorem number?_of_decimal {c : Char} {r : List Char} (hc : c = '0' → ∀ d ∈ r.head?,
    d ∉ ['x', 'X', 'o', 'O', 'b', 'B']) : number? (c :: r) = decimal? (c :: r) := by
  by_cases hzero : c = '0'
  · subst hzero
    cases r with
    | nil => rfl
    | cons d r =>
        have hd := hc rfl d rfl
        simp only [List.mem_cons, List.not_mem_nil, or_false, not_or] at hd
        simp [number?, hd]
  · rw [number?]
    rintro d u heq
    exact hzero (List.cons.inj heq).1

/-- A front ends neither in a digit nor in a point, so a number in it is longer than that. -/
theorem BeginsNumber.ne_nil {c : Char} (hbegins : BeginsNumber (c :: s)) (hs : Closes (c :: s)) :
    s ≠ [] := by
  rintro rfl
  obtain ⟨d, hd, hclosed, hpoint⟩ := hs
  obtain rfl : c = d := Option.some.inj hd
  obtain ⟨d, hd, hdigit | rfl⟩ := hbegins
  · obtain rfl : c = d := Option.some.inj hd
    rw [isNameChar_of_isDigit c hdigit] at hclosed
    cases hclosed
  · exact hpoint (Option.some.inj hd)

/-- A number at a front stops there, unless the front goes on with digits behind a sign. -/
theorem stopsWithin_number? (hs : Closes s) (hbegins : BeginsNumber s)
    (ht : t.head?.any Char.isDigit = true → ¬EndsExponent s) : StopsWithin number? s t := by
  have hdecimal := stopsWithin_decimal? hs hbegins ht
  match s with
  | [] => exact absurd rfl hs.ne_nil
  | [c] => exact absurd rfl (hbegins.ne_nil hs)
  | c :: d :: r =>
      by_cases hmark : c = '0' ∧ d ∈ ['x', 'X', 'o', 'O', 'b', 'B']
      · obtain ⟨rfl, hd⟩ := hmark
        have hname : ∀ d ∈ ['x', 'X', 'o', 'O', 'b', 'B'], isNameChar d = true :=
          List.all_iff_forall_prop.1 (by decide)
        have hr := (hs.tail (.inl (by decide))).tail (.inl (hname d hd))
        -- the two characters of the mark come before the digits of the base
        have hbase {base : Nat} {p : Char → Bool} (hp : ∀ c, p c = true → isNameChar c = true)
            (hread : ∀ t, number? ('0' :: d :: (r ++ t)) = based? base p (r ++ t)) :
            StopsWithin number? ('0' :: d :: r) t := by
          have hdigits := stopsWithin_based? base hp hr t
          refine StopsWithin.cons (f := fun r => number? ('0' :: r)) ?_ (by decide) fun _ => rfl
          exact hdigits.cons (isNumeralChar_of_isNameChar (hname d hd)) hread
        simp only [List.mem_cons, List.not_mem_nil, or_false] at hd
        obtain rfl | rfl | rfl | rfl | rfl | rfl := hd
        all_goals exact hbase (isNameChar_of_ascii (by decide)) fun _ => rfl
      · -- without a mark the number is decimal, whatever stands behind the front
        refine hdecimal.congr fun t => number?_of_decimal fun hc e he => ?_
        obtain rfl : d = e := Option.some.inj he
        exact fun hd => hmark ⟨hc, hd⟩

end Curly.Lexeme
