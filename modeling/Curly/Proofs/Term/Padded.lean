import Curly.Proofs.Expr.Passage

/-!
Arrows in code with blanks around the bindings of indices. The blanks stand where no word goes on,
so that the parts of an arrow are found with the blanks and without them: its parameter, which may
be a binding, the parentheses, and the sign.
-/

namespace Curly.Shorthand

open Text Text.Unicode Form
open Lexeme (isNameChar Closes EndsExponent IsBinding EndsBinding)

variable {quote : Char} {n p r rest s s' w : List Char}

/-! ## Arrows one by one -/

theorem isNameChar_of_isWord : ∀ c : Char, isWord c = true → isNameChar c = true :=
  Lexeme.isNameChar_of_ascii (by decide)

theorem arrow?_none {c : Char} (hc : c ≠ '(') (hstart : startsName c = false) (s : List Char) :
    arrow? (c :: s) = none := by
  rw [arrow?_bare hc, name?, if_neg (by simp [hstart])]
  rfl

theorem replaceArrows_copy {c : Char} (hquote : c ≠ '\'' ∧ c ≠ '"')
    (hnone : arrow? (c :: s) = none) : replaceArrows (c :: s) = c :: replaceArrows s := by
  refine substitute_cons (stringLiteral?_of_ne hquote s) ?_
  rw [hnone]
  rfl

theorem replaceArrows_hit (hsome : arrow? s = some (n, rest)) :
    rest.length < s.length ∧ replaceArrows s = lambdaFront n ++ replaceArrows rest := by
  have hhit : arrowHit? s = some (lambdaFront n, rest) := by
    rw [arrowHit?, hsome]
    rfl
  obtain ⟨u, hne, hu, rfl⟩ := findsPlain_arrowHit? hhit
  obtain ⟨c, u, rfl⟩ := List.exists_cons_of_ne_nil hne
  have hle : rest.length ≤ (u ++ rest).length := (List.suffix_append u rest).length_le
  exact ⟨Nat.lt_succ_of_le hle,
    substitute_hit (stringLiteral?_of_ne (hu c List.mem_cons_self) _) hhit hle⟩

theorem startsName_of_not_isWord {c : Char} (hc : isWord c = false) : startsName c = false := by
  rw [Bool.eq_false_iff]
  intro hstart
  rw [isWord_of_startsName hstart] at hc
  cases hc

theorem ne_quote_of_isSpaceChar {c : Char} (hc : isSpace c = true) : c ≠ '\'' ∧ c ≠ '"' := by
  have hall : [c].all isSpace = true := by simpa using hc
  exact ne_quote_of_isSpace hall c List.mem_cons_self

/-- White space is copied. -/
theorem replaceArrows_space {c : Char} (hc : isSpace c = true) (s : List Char) :
    replaceArrows (c :: s) = c :: replaceArrows s := by
  refine replaceArrows_copy (ne_quote_of_isSpaceChar hc) (arrow?_none ?_ ?_ s)
  · rintro rfl
    exact absurd hc (by decide)
  · exact startsName_of_not_isWord (isWord_of_isSpace hc)

/-- What stands for a text begins as the text does, or with a lambda. -/
theorem head?_replaceArrows (s : List Char) :
    (replaceArrows s).head? = s.head? ∨ (replaceArrows s).head? = some 'l' := by
  cases s with
  | nil => exact .inl (congrArg List.head? substitute_nil)
  | cons c s =>
      -- an arrow in front becomes a lambda; a string and any other character are copied
      cases harrow : arrow? (c :: s) with
      | some found =>
          rw [(replaceArrows_hit harrow).2]
          exact .inr rfl
      | none =>
          have hhit : arrowHit? (c :: s) = none := by
            rw [arrowHit?, harrow]
            rfl
          cases hstring : stringLiteral? (c :: s) with
          | none =>
              rw [replaceArrows_eq, substitute_cons hstring hhit]
              exact .inl rfl
          | some found =>
              obtain ⟨l, rest⟩ := found
              obtain ⟨hne, hsplit⟩ := append_of_stringLiteral? hstring
              obtain ⟨d, l, rfl⟩ := List.exists_cons_of_ne_nil hne
              rw [replaceArrows_eq, substitute_string hstring, ← hsplit]
              exact .inl rfl

/-- A word behind which no arrow goes on is copied. -/
theorem replaceArrows_word (hw : ∀ c ∈ w, isWord c = true) (hs : s.head?.any isWord = false)
    (hnone : afterArrow? s = none) : replaceArrows (w ++ s) = w ++ replaceArrows s := by
  induction w with
  | nil => rfl
  | cons c w ih =>
      obtain ⟨hc, hw⟩ := List.forall_mem_cons.1 hw
      have hopen : c ≠ '(' := by
        rintro rfl
        exact absurd hc (by decide)
      -- an arrow could begin with a name only, which is the whole word, and no sign of one follows
      have harrow : arrow? (c :: (w ++ s)) = none := by
        cases hstart : startsName c with
        | false => exact arrow?_none hopen hstart _
        | true =>
            have hname := name?_parameter ⟨c, w, rfl, hstart, List.all_eq_true.2 hw⟩ hs
            rw [List.cons_append] at hname
            rw [arrow?_bare hopen, hname, Option.bind_some]
            dsimp only
            rw [hnone]
            rfl
      rw [List.cons_append, replaceArrows_copy (ne_quote_of_isWord hc) harrow, ih hw,
        List.cons_append]

/-! ## Code with blanks -/

/-- Whether a binding may be put behind some code: this ends with a character that goes on in no
word and no number, and with no exponent that a digit would go on with. -/
def OpensBinding (r p : List Char) : Prop :=
  (p ≠ [] → Closes p) ∧ (r = ['0'] → ¬EndsExponent p)

/-- Whether two codes, behind some text, differ in blanks around bindings that stand apart. -/
inductive Padded (r : List Char) : List Char → List Char → List Char → Prop
  | nil {p : List Char} : Padded r p [] []
  | char {p s s' : List Char} {c : Char} (hc : c ∉ ['\'', '"', '#'])
      (hs : Padded r (p ++ [c]) s s') : Padded r p (c :: s) (c :: s')
  | literal {p body s s' : List Char} {quote : Char} {triple : Bool}
      (h : IsLiteral quote triple body) (hbody : IsPlain quote body)
      (hend : triple = false → body = [] → s.head? ≠ some quote)
      (hs : Padded r (p ++ literal quote triple body) s s') :
      Padded r p (literal quote triple body ++ s) (literal quote triple body ++ s')
  | binding {p s s' : List Char} (hp : OpensBinding r p) (hend : EndsBinding r (replaceArrows s))
      (hs : Padded r (p ++ "@index".toList) s s') :
      Padded r p (r ++ s) (' ' :: (r ++ ' ' :: s'))

/-- Whether two codes differ so, and perhaps in a blank in front. -/
def Near (r s s' : List Char) : Prop :=
  ∃ p u, Padded r p s u ∧ (s' = u ∨ s' = ' ' :: u)

theorem Padded.near (h : Padded r p s s') : Near r s s' := ⟨p, s', h, .inl rfl⟩

theorem ne_quote_of_not_mem {c : Char} (hc : c ∉ ['\'', '"', '#']) : c ≠ '\'' ∧ c ≠ '"' := by
  simp only [List.mem_cons, List.not_mem_nil, or_false, not_or] at hc
  exact ⟨hc.1, hc.2.1⟩

/-! ### The parts of arrows -/

theorem afterArrow?_blank {c : Char} (hc : isSpace c = true) (s : List Char) :
    afterArrow? (c :: s) = afterArrow? s := by
  rw [afterArrow?, afterArrow?, List.dropWhile_cons_of_pos hc]

theorem afterArrow?_none {c : Char} (hspace : isSpace c = false) (hc : c ≠ '=') (s : List Char) :
    afterArrow? (c :: s) = none := by
  rw [afterArrow?, List.dropWhile_cons_of_neg (by simp [hspace])]
  split
  · rename_i heq
    exact absurd (List.cons.inj heq).1 hc
  · rfl

theorem afterArrow?_equals {c : Char} (hc : c ≠ '>') (s : List Char) :
    afterArrow? ('=' :: c :: s) = none := by
  rw [afterArrow?, List.dropWhile_cons_of_neg (by decide)]
  split
  · rename_i heq
    exact absurd (List.cons.inj (List.cons.inj heq).2).1 hc
  · rfl

theorem afterGroup?_blank {c : Char} (hc : isSpace c = true) (s : List Char) :
    afterGroup? (c :: s) = afterGroup? s := by
  rw [afterGroup?, afterGroup?, List.dropWhile_cons_of_pos hc]

theorem afterGroup?_close (s : List Char) : afterGroup? (')' :: s) = afterArrow? s := by
  rw [afterGroup?, List.dropWhile_cons_of_neg (by decide)]
  rfl

theorem afterGroup?_none {c : Char} (hspace : isSpace c = false) (hc : c ≠ ')') (s : List Char) :
    afterGroup? (c :: s) = none := by
  rw [afterGroup?, List.dropWhile_cons_of_neg (by simp [hspace])]
  split
  · rename_i heq
    exact absurd (List.cons.inj heq).1 hc
  · rfl

theorem isWord_of_isPlainChar {c : Char} (hc : Lexeme.isPlainChar c = true) : isWord c = true := by
  have hascii : ∀ n < 128, Lexeme.isPlainChar (Char.ofNat n) = true →
      isWord (Char.ofNat n) = true := by
    decide
  have h := hascii c.toNat (Lexeme.toNat_lt_of_isPlainChar hc)
  rw [Char.ofNat_toNat] at h
  exact h hc

theorem isWord_of_mem_binding (hr : IsBinding r) : ∀ c ∈ r, isWord c = true := by
  obtain rfl | ⟨hr, -⟩ := hr
  · exact List.all_iff_forall_prop.1 (by decide)
  · exact fun c hc => isWord_of_isPlainChar (Lexeme.isPlainChar_of_mem hr c hc)

/-- A binding begins with a character of a word, which is no mark of an arrow. -/
theorem exists_cons_of_isBinding (hr : IsBinding r) :
    ∃ c v, r = c :: v ∧ isWord c = true ∧ isSpace c = false ∧ c ∉ ['=', '>', ')', '('] := by
  obtain ⟨c, v, hsplit⟩ : ∃ c v, r = c :: v := by
    obtain ⟨c, v, -, hsplit, -⟩ := hr.next?
    exact ⟨c, v, hsplit⟩
  have hc : isWord c = true := isWord_of_mem_binding hr c (hsplit ▸ List.mem_cons_self)
  refine ⟨c, v, hsplit, hc, isSpace_of_isWord hc, fun hmark => ?_⟩
  have hmarks : ∀ d ∈ ['=', '>', ')', '('], isWord d = false :=
    List.all_iff_forall_prop.1 (by decide)
  rw [hmarks c hmark] at hc
  cases hc

theorem isSpace_of_quote (hquote : quote = '\'' ∨ quote = '"') : isSpace quote = false := by
  obtain rfl | rfl := hquote <;> decide

/-- The sign of an arrow is in both codes, or in none. -/
theorem Padded.afterArrow? (hr : IsBinding r) (h : Padded r p s s') :
    Option.Rel (fun t t' => ∃ q, Padded r q t t') (afterArrow? s) (afterArrow? s') := by
  obtain ⟨d, v, hd, -, hspace, hmark⟩ := exists_cons_of_isBinding hr
  simp only [List.mem_cons, List.not_mem_nil, or_false, not_or] at hmark
  obtain ⟨hequals, hgt, -⟩ := hmark
  induction h with
  | nil => exact .none
  | @char p s s' c hc hs ih =>
      cases hblank : isSpace c with
      | true =>
          rw [afterArrow?_blank hblank, afterArrow?_blank hblank]
          exact ih
      | false =>
          by_cases hc : c = '='
          -- the sign is two characters, so the second may differ in what it stands in: neither a
          -- literal nor a binding begins with it
          · subst hc
            cases hs with
            | nil => exact .none
            | @char _ t t' e he ht =>
                by_cases hgt : e = '>'
                · subst hgt
                  exact .some ⟨_, ht⟩
                · rw [afterArrow?_equals hgt, afterArrow?_equals hgt]
                  exact .none
            | @literal _ body t t' quote triple hliteral =>
                obtain ⟨u, hu⟩ := literal_cons quote triple body t
                obtain ⟨u', hu'⟩ := literal_cons quote triple body t'
                have hquote : quote ≠ '>' := (Lexeme.ne_of_quote hliteral.isQuote (by decide)).symm
                rw [hu, hu', afterArrow?_equals hquote, afterArrow?_equals hquote]
                exact .none
            | binding =>
                rw [hd, List.cons_append, afterArrow?_equals hgt, afterArrow?_equals (by decide)]
                exact .none
          · rw [afterArrow?_none hblank hc, afterArrow?_none hblank hc]
            exact .none
  | @literal _ body t t' quote triple hliteral =>
      obtain ⟨u, hu⟩ := literal_cons quote triple body t
      obtain ⟨u', hu'⟩ := literal_cons quote triple body t'
      have hblank := isSpace_of_quote hliteral.isQuote
      have hquote : quote ≠ '=' := (Lexeme.ne_of_quote hliteral.isQuote (by decide)).symm
      rw [hu, hu', afterArrow?_none hblank hquote, afterArrow?_none hblank hquote]
      exact .none
  | binding =>
      rw [afterArrow?_blank (by decide), hd, List.cons_append, List.cons_append,
        afterArrow?_none hspace hequals, afterArrow?_none hspace hequals]
      exact .none

/-- So is the closing parenthesis in front of it. -/
theorem Padded.afterGroup? (hr : IsBinding r) (h : Padded r p s s') :
    Option.Rel (fun t t' => ∃ q, Padded r q t t') (afterGroup? s) (afterGroup? s') := by
  obtain ⟨d, v, hd, -, hspace, hmark⟩ := exists_cons_of_isBinding hr
  simp only [List.mem_cons, List.not_mem_nil, or_false, not_or] at hmark
  obtain ⟨-, -, hclose, -⟩ := hmark
  induction h with
  | nil => exact .none
  | @char p s s' c hc hs ih =>
      cases hblank : isSpace c with
      | true =>
          rw [afterGroup?_blank hblank, afterGroup?_blank hblank]
          exact ih
      | false =>
          by_cases hc : c = ')'
          · subst hc
            rw [afterGroup?_close, afterGroup?_close]
            exact hs.afterArrow? hr
          · rw [afterGroup?_none hblank hc, afterGroup?_none hblank hc]
            exact .none
  -- a literal and a binding begin with neither white space nor a parenthesis
  | @literal _ body t t' quote triple hliteral =>
      obtain ⟨u, hu⟩ := literal_cons quote triple body t
      obtain ⟨u', hu'⟩ := literal_cons quote triple body t'
      have hblank := isSpace_of_quote hliteral.isQuote
      have hquote : quote ≠ ')' := (Lexeme.ne_of_quote hliteral.isQuote (by decide)).symm
      rw [hu, hu', afterGroup?_none hblank hquote, afterGroup?_none hblank hquote]
      exact .none
  | binding =>
      rw [afterGroup?_blank (by decide), hd, List.cons_append, List.cons_append,
        afterGroup?_none hspace hclose, afterGroup?_none hspace hclose]
      exact .none

theorem Near.afterArrow? (hr : IsBinding r) (h : Near r s s') :
    Option.Rel (fun t t' => ∃ q, Padded r q t t') (afterArrow? s) (afterArrow? s') := by
  obtain ⟨p, u, hu, rfl | rfl⟩ := h
  · exact hu.afterArrow? hr
  · rw [afterArrow?_blank (by decide)]
    exact hu.afterArrow? hr

theorem Near.afterGroup? (hr : IsBinding r) (h : Near r s s') :
    Option.Rel (fun t t' => ∃ q, Padded r q t t') (afterGroup? s) (afterGroup? s') := by
  obtain ⟨p, u, hu, rfl | rfl⟩ := h
  · exact hu.afterGroup? hr
  · rw [afterGroup?_blank (by decide)]
    exact hu.afterGroup? hr

/-- No binding follows a character of a word, so that words end at the same place. -/
theorem Padded.word (h : Padded r p s s') (hp : ∃ c ∈ p.getLast?, isWord c = true) :
    s.takeWhile isWord = s'.takeWhile isWord ∧
      Near r (s.dropWhile isWord) (s'.dropWhile isWord) := by
  induction h with
  | nil => exact ⟨rfl, [], [], .nil, .inl rfl⟩
  | @char p s s' c hc hs ih =>
      cases hword : isWord c with
      | true =>
          obtain ⟨htake, hdrop⟩ := ih ⟨c, by rw [List.getLast?_concat]; rfl, hword⟩
          rw [List.takeWhile_cons_of_pos hword, List.takeWhile_cons_of_pos hword,
            List.dropWhile_cons_of_pos hword, List.dropWhile_cons_of_pos hword, htake]
          exact ⟨rfl, hdrop⟩
      | false =>
          have hstop : ¬isWord c = true := by simp [hword]
          rw [List.takeWhile_cons_of_neg hstop, List.takeWhile_cons_of_neg hstop,
            List.dropWhile_cons_of_neg hstop, List.dropWhile_cons_of_neg hstop]
          exact ⟨rfl, (Padded.char hc hs).near⟩
  | @literal p body s s' quote triple hliteral hbody hend hs =>
      have hnear := (Padded.literal hliteral hbody hend hs).near
      obtain ⟨u, hu⟩ := literal_cons quote triple body s
      obtain ⟨u', hu'⟩ := literal_cons quote triple body s'
      have hstop : ¬isWord quote = true := by simp [isWord_of_quote hliteral.isQuote]
      rw [hu, hu'] at hnear ⊢
      rw [List.takeWhile_cons_of_neg hstop, List.takeWhile_cons_of_neg hstop,
        List.dropWhile_cons_of_neg hstop, List.dropWhile_cons_of_neg hstop]
      exact ⟨rfl, hnear⟩
  -- a binding opens only behind what no word goes on from, so this case does not arise
  | @binding p s s' hopens =>
      obtain ⟨c, hc, hword⟩ := hp
      have hne : p ≠ [] := by
        rintro rfl
        cases hc
      obtain ⟨d, hd, hclosed, -⟩ := hopens.1 hne
      obtain rfl : c = d := Option.some.inj (hc.symm.trans hd)
      rw [isNameChar_of_isWord c hword] at hclosed
      cases hclosed

theorem Padded.name?_cons {c : Char} (hs : Padded r (p ++ [c]) s s') :
    Option.Rel (fun a b => a.1 = b.1 ∧ Near r a.2 b.2) (name? (c :: s)) (name? (c :: s')) := by
  rw [name?, name?]
  cases hstart : startsName c with
  | false => exact .none
  | true =>
      obtain ⟨htake, hdrop⟩ :=
        hs.word ⟨c, by rw [List.getLast?_concat]; rfl, isWord_of_startsName hstart⟩
      rw [if_pos rfl, if_pos rfl, htake]
      exact .some ⟨rfl, hdrop⟩

theorem isParameter_of_isPlainWord (hr : Lexeme.isPlainWord r = true) : IsParameter r := by
  have hchars := Lexeme.isPlainChar_of_mem hr
  cases r with
  | nil => cases hr
  | cons c v =>
      rw [Lexeme.isPlainWord, Bool.and_eq_true, Bool.and_eq_true, Bool.not_eq_true'] at hr
      obtain ⟨⟨hc, hdigit⟩, -⟩ := hr
      refine ⟨c, v, rfl, ?_, List.all_eq_true.2 fun d hd =>
        isWord_of_isPlainChar (hchars d (List.mem_cons_of_mem c hd))⟩
      rw [Lexeme.isPlainChar, Char.isAlphanum, hdigit, Bool.or_false] at hc
      exact hc

/-- What follows a binding is no character of a word. -/
theorem head?_any_isWord_of_endsBinding (h : EndsBinding r (replaceArrows s)) :
    s.head?.any isWord = false := by
  cases s with
  | nil => rfl
  | cons c s =>
      show isWord c = false
      rw [Bool.eq_false_iff]
      intro hword
      have hname := isNameChar_of_isWord c hword
      obtain hhead | hhead := head?_replaceArrows (c :: s)
      · rw [(h c hhead).1] at hname
        cases hname
      · exact absurd (h 'l' hhead).1 (by decide)

/-- A name behind white space is the same in both codes. -/
theorem Padded.name? (hr : IsBinding r) (h : Padded r p s s') :
    Option.Rel (fun a b => a.1 = b.1 ∧ Near r a.2 b.2)
      (name? (s.dropWhile isSpace)) (name? (s'.dropWhile isSpace)) := by
  induction h with
  | nil => exact .none
  | @char p s s' c hc hs ih =>
      cases hblank : isSpace c with
      | true =>
          rw [List.dropWhile_cons_of_pos hblank, List.dropWhile_cons_of_pos hblank]
          exact ih
      | false =>
          have hstop : ¬isSpace c = true := by simp [hblank]
          rw [List.dropWhile_cons_of_neg hstop, List.dropWhile_cons_of_neg hstop]
          exact hs.name?_cons
  | @literal _ body t t' quote triple hliteral =>
      obtain ⟨u, hu⟩ := literal_cons quote triple body t
      obtain ⟨u', hu'⟩ := literal_cons quote triple body t'
      have hstop : ¬isSpace quote = true := by simp [isSpace_of_quote hliteral.isQuote]
      have hstart : ¬startsName quote = true := by
        simp [startsName_of_not_isWord (isWord_of_quote hliteral.isQuote)]
      rw [hu, hu', List.dropWhile_cons_of_neg hstop, List.dropWhile_cons_of_neg hstop,
        Shorthand.name?, Shorthand.name?, if_neg hstart, if_neg hstart]
      exact .none
  | @binding p s s' hopens hend hs =>
      obtain ⟨c, v, hsplit, -, hspace, -⟩ := exists_cons_of_isBinding hr
      -- the blank in front of the binding is dropped, and the one behind it ends the name as well
      have hdrop (t : List Char) : (r ++ t).dropWhile isSpace = r ++ t := by
        rw [hsplit]
        exact List.dropWhile_cons_of_neg (by simp [hspace])
      rw [List.dropWhile_cons_of_pos (by decide), hdrop, hdrop]
      obtain rfl | ⟨hword, -⟩ := hr
      · exact .none
      · have hn := isParameter_of_isPlainWord hword
        have hblank : (' ' :: s').head?.any isWord = false := by
          rw [List.head?_cons, Option.any_some]
          exact isWord_of_isSpace (by decide)
        rw [name?_parameter hn (head?_any_isWord_of_endsBinding hend), name?_parameter hn hblank]
        exact .some ⟨rfl, _, s', hs, .inr rfl⟩

section Relation

variable {α β γ δ : Type} {P : α → β → Prop} {Q : γ → δ → Prop} {o : Option α} {o' : Option β}

theorem rel_bind {f : α → Option γ} {g : β → Option δ} (h : Option.Rel P o o')
    (hf : ∀ a b, P a b → Option.Rel Q (f a) (g b)) : Option.Rel Q (o.bind f) (o'.bind g) := by
  cases h with
  | none => exact .none
  | some hab => exact hf _ _ hab

theorem rel_map {f : α → γ} {g : β → δ} (h : Option.Rel P o o')
    (hf : ∀ a b, P a b → Q (f a) (g b)) : Option.Rel Q (o.map f) (o'.map g) := by
  cases h with
  | none => exact .none
  | some hab => exact .some (hf _ _ hab)

end Relation

/-- **The same arrows** are found in both codes, outside of bindings. -/
theorem Padded.arrow? (hr : IsBinding r) {c : Char} (hs : Padded r (p ++ [c]) s s') :
    Option.Rel (fun a b => a.1 = b.1 ∧ ∃ q, Padded r q a.2 b.2)
      (arrow? (c :: s)) (arrow? (c :: s')) := by
  by_cases hc : c = '('
  · subst hc
    rw [arrow?_group, arrow?_group]
    refine rel_bind (hs.name? hr) fun a b hab => ?_
    obtain ⟨hname, hnear⟩ := hab
    exact rel_map (hnear.afterGroup? hr) fun t t' ht => ⟨hname, ht⟩
  · rw [arrow?_bare hc, arrow?_bare hc]
    refine rel_bind hs.name?_cons fun a b hab => ?_
    obtain ⟨hname, hnear⟩ := hab
    exact rel_map (hnear.afterArrow? hr) fun t t' ht => ⟨hname, ht⟩

/-! ## White space at the end -/

theorem all_isSpace_of_head? {c : Char} (hs : s.head? = some c) (hc : isSpace c = false) :
    s.all isSpace = false := by
  obtain ⟨s, rfl⟩ := List.head?_eq_some_iff.1 hs
  rw [List.all_cons, hc, Bool.false_and]

theorem all_isSpace_replaceArrows (s : List Char) :
    (replaceArrows s).all isSpace = s.all isSpace := by
  induction s with
  | nil => exact congrArg (List.all · isSpace) substitute_nil
  | cons c s ih =>
      cases hc : isSpace c with
      | true => rw [replaceArrows_space hc, List.all_cons, ih, List.all_cons]
      | false =>
          rw [all_isSpace_of_head? (s := c :: s) rfl hc]
          obtain hhead | hhead := head?_replaceArrows (c :: s)
          · exact all_isSpace_of_head? hhead hc
          · exact all_isSpace_of_head? hhead (by decide)

theorem Padded.all_isSpace (hr : IsBinding r) (h : Padded r p s s') :
    s.all isSpace = s'.all isSpace := by
  induction h with
  | nil => rfl
  | char _ _ ih => rw [List.all_cons, List.all_cons, ih]
  | @literal _ body t t' quote triple hliteral =>
      obtain ⟨u, hu⟩ := literal_cons quote triple body t
      obtain ⟨u', hu'⟩ := literal_cons quote triple body t'
      rw [hu, hu', List.all_cons, List.all_cons, isSpace_of_quote hliteral.isQuote,
        Bool.false_and, Bool.false_and]
  | binding =>
      obtain ⟨c, v, rfl, -, hspace, -⟩ := exists_cons_of_isBinding hr
      simp [hspace]

theorem Padded.stripEnd_eq_nil_iff (hr : IsBinding r) (h : Padded r p s s') :
    stripEnd (replaceArrows s) = [] ↔ stripEnd (replaceArrows s') = [] := by
  rw [Text.stripEnd_eq_nil_iff, Text.stripEnd_eq_nil_iff, all_isSpace_replaceArrows,
    all_isSpace_replaceArrows, h.all_isSpace hr]

/-! ## Bindings as parameters -/

theorem arrow?_binding (hr : IsBinding r) (hs : s.head?.any isWord = false) :
    arrow? (r ++ s) = none ∧ r = ['0'] ∨
      arrow? (r ++ s) = (afterArrow? s).map fun rest => (r, rest) := by
  obtain ⟨c, v, hsplit, -, -, hmark⟩ := exists_cons_of_isBinding hr
  have hopen : c ≠ '(' := by
    rintro rfl
    exact hmark (by decide)
  obtain rfl | ⟨hword, -⟩ := hr
  · exact .inl ⟨arrow?_none (by decide) (by decide) s, rfl⟩
  · have hname := name?_parameter (isParameter_of_isPlainWord hword) hs
    rw [hsplit, List.cons_append] at hname ⊢
    rw [arrow?_bare hopen, hname]
    exact .inr rfl

theorem replaceArrows_binding (hr : IsBinding r) (hs : s.head?.any isWord = false)
    (hnone : arrow? (r ++ s) = none) : replaceArrows (r ++ s) = r ++ replaceArrows s := by
  obtain ⟨-, rfl⟩ | heq := arrow?_binding hr hs
  · exact replaceArrows_copy (by decide) hnone
  · rw [heq, Option.map_eq_none_iff] at hnone
    exact replaceArrows_word (isWord_of_mem_binding hr) hs hnone

theorem head?_any_isWord_blank (s : List Char) : (' ' :: s).head?.any isWord = false := by
  rw [List.head?_cons, Option.any_some]
  exact isWord_of_isSpace (by decide)

/-- A binding is the parameter of an arrow in both codes, or in none. -/
theorem Padded.arrow?_binding (hr : IsBinding r) (hend : EndsBinding r (replaceArrows s))
    (hs : Padded r p s s') :
    Option.Rel (fun a b => a.1 = b.1 ∧ ∃ q, Padded r q a.2 b.2)
      (Shorthand.arrow? (r ++ s)) (Shorthand.arrow? (r ++ ' ' :: s')) := by
  obtain ⟨hnone, rfl⟩ | heq := Shorthand.arrow?_binding hr (head?_any_isWord_of_endsBinding hend)
  · rw [hnone, List.singleton_append, arrow?_none (by decide) (by decide)]
    exact .none
  · obtain ⟨hnone', rfl⟩ | heq' := Shorthand.arrow?_binding hr (head?_any_isWord_blank s')
    · rw [hnone', List.singleton_append, arrow?_none (by decide) (by decide)]
      exact .none
    · rw [heq, heq', afterArrow?_blank (by decide)]
      exact rel_map (hs.afterArrow? hr) fun t t' ht => ⟨rfl, ht⟩

end Curly.Shorthand
