import Curly.Proofs.Expr.Lexer
import Curly.Proofs.Term.Shadowing
import Curly.Proofs.Text.Word
import Mathlib.Data.Bool.AllAny

/-!
How the shorthands of a text are found. A substitution takes for a string what stands between two
quotes, with no line end behind a backslash, and goes through a text of such quotations and of other
characters from front to back: in front of what nothing that is searched for reaches into, it can be
taken apart. What is searched for is the index of a loop as a word, or the text of an arrow.
-/

namespace Curly.Shorthand

open Text Text.Unicode Form

variable {hit? : List Char → Option (List Char × List Char)}
  {quote : Char} {a body l n p rest s t u v w : List Char}

/-! ## Quotations -/

/-- What stands between the quotes of a quotation: no such quote by itself, and no line end behind a
backslash. -/
inductive IsPlain (quote : Char) : List Char → Prop
  | nil : IsPlain quote []
  | char {c : Char} {s : List Char} (hc : c ≠ quote ∧ c ≠ '\\') (hs : IsPlain quote s) :
      IsPlain quote (c :: s)
  | escape {c : Char} {s : List Char} (hc : c ≠ '\n') (hs : IsPlain quote s) :
      IsPlain quote ('\\' :: c :: s)

theorem quoted?_inner {c : Char} (hc : c ≠ quote ∧ c ≠ '\\') (s : List Char) :
    quoted? quote (c :: s) = (quoted? quote s).map fun (a, r) => (c :: a, r) := by
  rw [quoted?, if_neg hc.1, if_neg hc.2]
  rintro d u rfl
  exact absurd rfl hc.2

theorem quoted?_close (hquote : quote ≠ '\\') (s : List Char) :
    quoted? quote (quote :: s) = some ([quote], s) := by
  rw [quoted?, if_pos rfl]
  rintro d u rfl
  exact absurd rfl hquote

theorem IsPlain.quoted? (h : IsPlain quote body) (hquote : quote ≠ '\\') (rest : List Char) :
    quoted? quote (body ++ quote :: rest) = some (body ++ [quote], rest) := by
  induction h with
  | nil => exact quoted?_close hquote rest
  | char hc _ ih =>
      rw [List.cons_append, quoted?_inner hc, ih]
      rfl
  | escape hc _ ih =>
      rw [List.cons_append, List.cons_append, Shorthand.quoted?, if_neg hc, ih]
      rfl

/-- A backslash at the end of a line is in no quotation. -/
theorem IsPlain.quoted?_continued (h : IsPlain quote p) (s : List Char) :
    Shorthand.quoted? quote (p ++ '\\' :: '\n' :: s) = none := by
  induction h with
  | nil => exact if_pos rfl
  | char hc _ ih =>
      rw [List.cons_append, quoted?_inner hc, ih]
      rfl
  | escape hc _ ih =>
      rw [List.cons_append, List.cons_append, Shorthand.quoted?, if_neg hc, ih]
      rfl

theorem stringLiteral?_quote (hquote : quote = '\'' ∨ quote = '"') (s : List Char) :
    stringLiteral? (quote :: s) = (quoted? quote s).map fun (a, r) => (quote :: a, r) := by
  obtain rfl | rfl := hquote <;> rfl

theorem stringLiteral?_of_ne {c : Char} (hc : c ≠ '\'' ∧ c ≠ '"') (s : List Char) :
    stringLiteral? (c :: s) = none := by
  unfold stringLiteral?
  split
  · rename_i heq
    exact absurd (List.cons.inj heq).1 hc.1
  · rename_i heq
    exact absurd (List.cons.inj heq).1 hc.2
  · rfl

/-! ## Substitution -/

/-- What is searched for outside of strings is some text without quotes. -/
def FindsPlain (hit? : List Char → Option (List Char × List Char)) : Prop :=
  ∀ ⦃s n rest⦄, hit? s = some (n, rest) →
    ∃ u, u ≠ [] ∧ (∀ c ∈ u, c ≠ '\'' ∧ c ≠ '"') ∧ s = u ++ rest

/-- Whether what is found in a text is found alike in front of another one. -/
def FindsWithin (hit? : List Char → Option (List Char × List Char)) (s t : List Char) : Prop :=
  ∀ v, v <:+ s → v ≠ [] → hit? (v ++ t) = (hit? v).map fun (n, rest) => (n, rest ++ t)

theorem substitute_nil : substitute hit? [] = [] := by
  rw [substitute]

theorem substitute_string (h : stringLiteral? s = some (l, rest)) :
    substitute hit? s = l ++ substitute hit? rest := by
  obtain ⟨hne, rfl⟩ := append_of_stringLiteral? h
  cases l with
  | nil => exact absurd rfl hne
  | cons c l =>
      rw [List.cons_append] at h ⊢
      rw [substitute, h]
      simp

theorem substitute_hit {c : Char} (hstring : stringLiteral? (c :: s) = none)
    (h : hit? (c :: s) = some (w, rest)) (hle : rest.length ≤ s.length) :
    substitute hit? (c :: s) = w ++ substitute hit? rest := by
  rw [substitute, hstring, h]
  simp [hle]

theorem substitute_cons {c : Char} (hstring : stringLiteral? (c :: s) = none)
    (h : hit? (c :: s) = none) : substitute hit? (c :: s) = c :: substitute hit? s := by
  rw [substitute, hstring, h]
  rfl

/-- A quotation is copied. -/
theorem substitute_quotation (hit? : List Char → Option (List Char × List Char))
    (hquote : quote = '\'' ∨ quote = '"') (h : IsPlain quote body) (rest : List Char) :
    substitute hit? (quote :: (body ++ quote :: rest)) =
      quote :: (body ++ quote :: substitute hit? rest) := by
  have hslash : quote ≠ '\\' := by
    rintro rfl
    simp at hquote
  have hstring : stringLiteral? (quote :: (body ++ quote :: rest)) =
      some (quote :: (body ++ [quote]), rest) := by
    rw [stringLiteral?_quote hquote, h.quoted? hslash]
    rfl
  rw [substitute_string hstring]
  simp

/-! ## Texts that are gone through in step -/

/-- Whether a text is made of quotations and of characters that are no quotes. -/
inductive InStep : List Char → Prop
  | nil : InStep []
  | char {c : Char} {s : List Char} (hc : c ≠ '\'' ∧ c ≠ '"') (hs : InStep s) : InStep (c :: s)
  | quotation {quote : Char} {body s : List Char} (hquote : quote = '\'' ∨ quote = '"')
      (hbody : IsPlain quote body) (hs : InStep s) : InStep (quote :: (body ++ quote :: s))

theorem InStep.append (hs : InStep s) (ht : InStep t) : InStep (s ++ t) := by
  induction hs with
  | nil => exact ht
  | char hc _ ih => exact .char hc ih
  | quotation hquote hbody _ ih =>
      rw [List.cons_append, List.append_assoc, List.cons_append]
      exact .quotation hquote hbody ih

theorem inStep_of_not_quote (h : ∀ c ∈ s, c ≠ '\'' ∧ c ≠ '"') : InStep s := by
  induction s with
  | nil => exact .nil
  | cons c s ih =>
      obtain ⟨hc, hs⟩ := List.forall_mem_cons.1 h
      exact .char hc (ih hs)

theorem InStep.tail {c : Char} (hc : c ≠ '\'' ∧ c ≠ '"') (h : InStep (c :: s)) : InStep s := by
  cases h with
  | char _ hs => exact hs
  | quotation hquote => exact absurd hquote (by simp [hc])

theorem InStep.of_append (hu : ∀ c ∈ u, c ≠ '\'' ∧ c ≠ '"') (h : InStep (u ++ s)) : InStep s := by
  induction u with
  | nil => exact h
  | cons c u ih =>
      obtain ⟨hc, hu⟩ := List.forall_mem_cons.1 hu
      exact ih hu (h.tail hc)

/-- **A text in step and what follows it are gone through one by one**, if nothing is found that
stands in both. -/
theorem substitute_append (hplain : FindsPlain hit?) (hs : InStep s)
    (hwithin : FindsWithin hit? s t) :
    substitute hit? (s ++ t) = substitute hit? s ++ substitute hit? t := by
  induction hn : s.length using Nat.strong_induction_on generalizing s with
  | _ n ih =>
    subst hn
    -- the induction is on the length, since what is found may be of any length
    have hnext {r : List Char} (hr : InStep r) (hsuffix : r <:+ s) (hlt : r.length < s.length) :
        substitute hit? (r ++ t) = substitute hit? r ++ substitute hit? t :=
      ih _ hlt hr (fun v hv => hwithin v (hv.trans hsuffix)) rfl
    cases hs with
    | nil => rw [substitute_nil, List.nil_append, List.nil_append]
    | @char c s hc hs =>
        have hhit := hwithin (c :: s) List.suffix_rfl (List.cons_ne_nil c s)
        rw [List.cons_append] at hhit ⊢
        cases hfound : hit? (c :: s) with
        | none =>
            rw [hfound] at hhit
            rw [substitute_cons (stringLiteral?_of_ne hc _) hhit,
              substitute_cons (stringLiteral?_of_ne hc _) hfound,
              hnext hs (List.suffix_cons c s) (Nat.lt_succ_self _), List.cons_append]
        | some found =>
            obtain ⟨w, rest⟩ := found
            obtain ⟨u, hne, hu, hsplit⟩ := hplain hfound
            have hlength := congrArg List.length hsplit
            have hpos := List.length_pos_iff.2 hne
            rw [List.length_cons, List.length_append] at hlength
            -- what is found is plain, so the text behind it is still in step
            have hrest : InStep rest := .of_append hu (hsplit ▸ .char hc hs)
            rw [hfound] at hhit
            rw [substitute_hit (stringLiteral?_of_ne hc _) hhit
                (by simp only [List.length_append]; omega),
              substitute_hit (stringLiteral?_of_ne hc _) hfound (by omega),
              hnext hrest (hsplit ▸ List.suffix_append u rest)
                (by simp only [List.length_cons]; omega), List.append_assoc]
    | @quotation quote body s hquote hbody hs =>
        have hsplit : quote :: (body ++ quote :: s) = quote :: (body ++ [quote]) ++ s := by simp
        have hsuffix : s <:+ quote :: (body ++ quote :: s) := by
          rw [hsplit]
          exact List.suffix_append _ s
        rw [List.cons_append, List.append_assoc, List.cons_append,
          substitute_quotation _ hquote hbody, substitute_quotation _ hquote hbody,
          hnext hs hsuffix (by simp only [List.length_cons, List.length_append]; omega)]
        simp

/-! ## Indices -/

/-- A word that a text begins with is not looked for behind the text. -/
theorem startsWithWord_append {word : List Char} (hv : v ≠ [])
    (ht : ∀ c ∈ t.head?, isWord c = false ∧ c ∉ word.tail) :
    startsWithWord word (v ++ t) = startsWithWord word v := by
  have hend : atWordEnd t = true := by
    cases t with
    | nil => rfl
    | cons c t =>
        rw [atWordEnd, (ht c rfl).1]
        rfl
  rw [Bool.eq_iff_iff, startsWithWord, startsWithWord, Bool.and_eq_true, Bool.and_eq_true,
    List.isPrefixOf_iff_prefix, List.isPrefixOf_iff_prefix]
  by_cases hlength : word.length ≤ v.length
  · have hfront : word <+: v ++ t ↔ word <+: v :=
      ⟨fun h => List.prefix_of_prefix_length_le h (List.prefix_append v t) hlength,
        fun h => h.trans (List.prefix_append v t)⟩
    rw [hfront, List.drop_append_of_le_length hlength]
    cases v.drop word.length with
    | nil =>
        rw [List.nil_append, hend]
        rfl
    | cons c s => rfl
  · refine iff_of_false (fun h => ?_) fun h => hlength h.1.length_le
    -- what follows the text would be in the word
    obtain ⟨u, rfl⟩ := List.prefix_of_prefix_length_le (List.prefix_append v t) h.1
      (Nat.le_of_not_le hlength)
    cases u with
    | nil => simp at hlength
    | cons c u =>
        obtain ⟨t, rfl⟩ := (List.prefix_append_right_inj v).1 h.1
        refine (ht c rfl).2 ?_
        rw [List.tail_append_of_ne_nil hv]
        exact List.mem_append_right _ List.mem_cons_self

/-- The index of a loop in front of a text, with what stands for it. -/
def indexHit? (r s : List Char) : Option (List Char × List Char) :=
  if startsWithWord "@index".toList s then some (r, s.drop 6) else none

theorem replaceIndex_eq (r s : List Char) : replaceIndex r s = substitute (indexHit? r) s := rfl

theorem findsPlain_indexHit? (r : List Char) : FindsPlain (indexHit? r) := by
  intro s n rest h
  rw [indexHit?] at h
  split at h
  · rename_i hword
    cases h
    rw [startsWithWord, Bool.and_eq_true, List.isPrefixOf_iff_prefix] at hword
    obtain ⟨⟨t, rfl⟩, -⟩ := hword
    exact ⟨"@index".toList, by decide, List.all_iff_forall_prop.1 (by decide), rfl⟩
  · cases h

theorem findsWithin_indexHit? (r s : List Char)
    (ht : ∀ c ∈ t.head?, isWord c = false) : FindsWithin (indexHit? r) s t := by
  intro v _ hv
  -- Behind its first character the mark is a word, and no word goes on behind the seam.
  have hword : ∀ c ∈ t.head?, isWord c = false ∧ c ∉ "@index".toList.tail := by
    intro c hc
    refine ⟨ht c hc, fun hmem => ?_⟩
    have hall : ∀ d ∈ "@index".toList.tail, isWord d = true :=
      List.all_iff_forall_prop.1 (by decide)
    exact Bool.false_ne_true ((ht c hc).symm.trans (hall c hmem))
  rw [indexHit?, indexHit?, startsWithWord_append hv hword]
  cases hstarts : startsWithWord "@index".toList v with
  | false => rfl
  | true =>
      rw [startsWithWord, Bool.and_eq_true, List.isPrefixOf_iff_prefix] at hstarts
      have hlength : 6 ≤ v.length := hstarts.1.length_le
      rw [if_pos rfl, if_pos rfl, List.drop_append_of_le_length hlength]
      rfl

/-! ## Arrows -/

/-- Whether a text ends with a name, perhaps in a longer word. -/
def EndsName (s : List Char) : Prop :=
  ∃ u c w, s = u ++ c :: w ∧ startsName c = true ∧ w.all isWord = true

theorem name?_append (hv : v ≠ []) (ht : t.head?.any isWord = true → ¬EndsName v) :
    name? (v ++ t) = (name? v).map fun (n, rest) => (n, rest ++ t) := by
  cases v with
  | nil => exact absurd rfl hv
  | cons c s =>
      rw [List.cons_append, name?, name?]
      cases hc : startsName c with
      | false => rfl
      | true =>
          rw [if_pos rfl, if_pos rfl, List.takeWhile_append, List.dropWhile_append]
          -- a name that reaches the end could go on in the text behind it
          by_cases hs : s.all isWord = true
          · have htake : s.takeWhile isWord = s :=
              List.takeWhile_eq_self_iff.2 (List.all_eq_true.1 hs)
            have hdrop : s.dropWhile isWord = [] :=
              List.dropWhile_eq_nil_iff.2 (List.all_eq_true.1 hs)
            have hhead : t.head?.any isWord = false :=
              Bool.eq_false_iff.2 fun h => ht h ⟨[], c, s, rfl, hc, hs⟩
            cases t with
            | nil => simp [htake, hdrop]
            | cons d t =>
                have hd : isWord d = false := hhead
                simp [htake, hdrop, hd]
          · have hdrop : s.dropWhile isWord ≠ [] := by
              rw [ne_eq, List.dropWhile_eq_nil_iff, ← List.all_eq_true]
              exact hs
            -- else it ends inside, and the text behind it is out of its reach
            have hlength : (s.takeWhile isWord).length ≠ s.length := by
              intro h
              refine hdrop (List.eq_nil_of_length_eq_zero ?_)
              have hsplit : s.takeWhile isWord ++ s.dropWhile isWord = s :=
                List.takeWhile_append_dropWhile
              have hsum := congrArg List.length hsplit
              rw [List.length_append] at hsum
              omega
            simp [hdrop, hlength]

theorem afterArrow?_append (harrow : afterArrow? t = none) (hgt : t.head? ≠ some '>') :
    afterArrow? (v ++ t) = (afterArrow? v).map (· ++ t) := by
  rw [afterArrow?, afterArrow?, List.dropWhile_append]
  cases hdrop : v.dropWhile isSpace with
  | nil => exact harrow
  -- the two characters of the sign stand in front, or the first one ends the front
  | cons c s =>
      by_cases hc : c = '='
      · subst hc
        cases s with
        | nil =>
            cases t with
            | nil => rfl
            | cons d t =>
                have hd : d ≠ '>' := fun h => hgt (congrArg some h)
                simp [hd]
        | cons d s =>
            by_cases hd : d = '>'
            · subst hd
              rfl
            · simp [hd]
      · simp [hc]

/-- What follows the arrow behind a parameter whose parenthesis is open. -/
def afterGroup? (s : List Char) : Option (List Char) :=
  match s.dropWhile isSpace with
  | ')' :: rest => afterArrow? rest
  | _ => none

theorem afterGroup?_append (harrow : afterArrow? t = none) (hgt : t.head? ≠ some '>')
    (hclose : (t.dropWhile isSpace).head? ≠ some ')') :
    afterGroup? (v ++ t) = (afterGroup? v).map (· ++ t) := by
  rw [afterGroup?, afterGroup?, List.dropWhile_append]
  cases v.dropWhile isSpace with
  | nil =>
      cases hdrop : t.dropWhile isSpace with
      | nil => rfl
      | cons c t =>
          rw [hdrop] at hclose
          have hc : c ≠ ')' := fun h => hclose (congrArg some h)
          simp [hc]
  | cons c s =>
      by_cases hc : c = ')'
      · subst hc
        exact afterArrow?_append harrow hgt
      · simp [hc]

theorem arrow?_group (s : List Char) :
    arrow? ('(' :: s) = (name? (s.dropWhile isSpace)).bind fun (n, rest) =>
      (afterGroup? rest).map (n, ·) := by
  rw [arrow?]
  refine congrArg _ (funext fun found => ?_)
  dsimp only [afterGroup?]
  cases found.2.dropWhile isSpace with
  | nil => rfl
  | cons c rest =>
      by_cases hc : c = ')'
      · subst hc
        cases h : afterArrow? rest <;> simp [h]
      · simp [hc]

theorem arrow?_bare {c : Char} (hc : c ≠ '(') (s : List Char) :
    arrow? (c :: s) = (name? (c :: s)).bind fun (n, rest) => (afterArrow? rest).map (n, ·) := by
  rw [arrow?]
  · refine congrArg _ (funext fun found => ?_)
    cases h : afterArrow? found.2 <;> simp [h]
  · rintro inner ⟨⟩
    exact hc rfl

/-- An arrow is found alike in front of a text with which it does not go on. -/
theorem arrow?_append (hv : v ≠ []) (harrow : afterArrow? t = none) (hgt : t.head? ≠ some '>')
    (hclose : (t.dropWhile isSpace).head? ≠ some ')')
    (hword : t.head?.any isWord = true → ¬EndsName v)
    (hopen : ∀ ws, v = '(' :: ws → ws.all isSpace = true → arrow? (v ++ t) = none) :
    arrow? (v ++ t) = (arrow? v).map fun (n, rest) => (n, rest ++ t) := by
  cases v with
  | nil => exact absurd rfl hv
  | cons c s =>
      by_cases hc : c = '('
      · subst hc
        -- in parentheses the name begins in the front, unless only white space is left there
        by_cases hspace : s.all isSpace = true
        · have hdrop : s.dropWhile isSpace = [] :=
            List.dropWhile_eq_nil_iff.2 (List.all_eq_true.1 hspace)
          rw [hopen s rfl hspace, arrow?_group, hdrop]
          rfl
        · have hdrop : s.dropWhile isSpace ≠ [] := by
            rw [ne_eq, List.dropWhile_eq_nil_iff, ← List.all_eq_true]
            exact hspace
          have hends : t.head?.any isWord = true → ¬EndsName (s.dropWhile isSpace) := by
            rintro ht ⟨u, d, w, hsplit, hd, hw⟩
            refine hword ht ⟨'(' :: (s.takeWhile isSpace ++ u), d, w, ?_, hd, hw⟩
            rw [List.cons_append, List.append_assoc, ← hsplit, List.takeWhile_append_dropWhile]
          have hinner : (s ++ t).dropWhile isSpace = s.dropWhile isSpace ++ t := by
            rw [List.dropWhile_append, if_neg (by simpa using hdrop)]
          rw [List.cons_append, arrow?_group, arrow?_group, hinner, name?_append hdrop hends]
          cases name? (s.dropWhile isSpace) with
          | none => rfl
          | some found =>
              rw [Option.map_some, Option.bind_some, Option.bind_some]
              dsimp only
              rw [afterGroup?_append harrow hgt hclose, Option.map_map, Option.map_map]
              rfl
      · have hname := name?_append hv hword
        rw [List.cons_append] at hname ⊢
        rw [arrow?_bare hc, arrow?_bare hc, hname]
        cases name? (c :: s) with
        | none => rfl
        | some found =>
            rw [Option.map_some, Option.bind_some, Option.bind_some]
            dsimp only
            rw [afterArrow?_append harrow hgt, Option.map_map, Option.map_map]
            rfl

/-! ### The texts of arrows -/

/-- A name as the parameter of an arrow. -/
def IsParameter (n : List Char) : Prop :=
  ∃ c w, n = c :: w ∧ startsName c = true ∧ w.all isWord = true

/-- The text of an arrow with a parameter, with or without parentheses. -/
inductive IsArrow (n : List Char) : List Char → Prop
  | bare {ws : List Char} (hws : ws.all isSpace = true) : IsArrow n (n ++ ws ++ ['=', '>'])
  | group {ws₁ ws₂ ws₃ : List Char} (hws₁ : ws₁.all isSpace = true) (hws₂ : ws₂.all isSpace = true)
      (hws₃ : ws₃.all isSpace = true) :
      IsArrow n ('(' :: (ws₁ ++ n ++ ws₂ ++ ')' :: (ws₃ ++ ['=', '>'])))

theorem dropWhile_space {ws : List Char} (hws : ws.all isSpace = true) (s : List Char) :
    (ws ++ s).dropWhile isSpace = s.dropWhile isSpace :=
  List.dropWhile_append_of_pos (List.all_eq_true.1 hws)

theorem afterArrow?_space {ws : List Char} (hws : ws.all isSpace = true) (s : List Char) :
    afterArrow? (ws ++ '=' :: '>' :: s) = some s := by
  rw [afterArrow?, dropWhile_space hws, List.dropWhile_cons_of_neg (by decide)]
  rfl

theorem afterGroup?_space {ws ws' : List Char} (hws : ws.all isSpace = true)
    (hws' : ws'.all isSpace = true) (s : List Char) :
    afterGroup? (ws ++ ')' :: (ws' ++ '=' :: '>' :: s)) = some s := by
  rw [afterGroup?, dropWhile_space hws, List.dropWhile_cons_of_neg (by decide)]
  exact afterArrow?_space hws' s

theorem isWord_of_startsName {c : Char} (hc : startsName c = true) : isWord c = true := by
  have hascii : ∀ n < 128, startsName (Char.ofNat n) = true → isWord (Char.ofNat n) = true := by
    decide
  have hlt : c.toNat < 128 := by
    rw [startsName, Bool.or_eq_true, beq_iff_eq] at hc
    obtain hletter | rfl := hc
    · exact Nat.lt_of_le_of_lt (toNat_of_isAlpha hletter).2 (by decide)
    · decide
  have h := hascii c.toNat hlt
  rw [Char.ofNat_toNat] at h
  exact h hc

theorem isSpace_of_isWord {c : Char} (hc : isWord c = true) : isSpace c = false := by
  rw [← Bool.not_eq_true]
  intro hspace
  rw [isWord_of_isSpace hspace] at hc
  cases hc

theorem IsParameter.isWord (hn : IsParameter n) : ∀ c ∈ n, isWord c = true := by
  obtain ⟨c, w, rfl, hc, hw⟩ := hn
  exact List.forall_mem_cons.2 ⟨isWord_of_startsName hc, List.all_eq_true.1 hw⟩

theorem IsParameter.dropWhile (hn : IsParameter n) (s : List Char) :
    (n ++ s).dropWhile isSpace = n ++ s := by
  obtain ⟨c, w, rfl, hc, -⟩ := hn
  have hspace := isSpace_of_isWord (isWord_of_startsName hc)
  exact List.dropWhile_cons_of_neg (by simp [hspace])

/-- What follows a word of an arrow: white space or a mark. -/
theorem head?_any_isWord {ws : List Char} (hws : ws.all isSpace = true) {d : Char}
    (hd : isWord d = false) (s : List Char) : (ws ++ d :: s).head?.any isWord = false := by
  cases ws with
  | nil => exact hd
  | cons c ws => exact isWord_of_isSpace (List.all_eq_true.1 hws c List.mem_cons_self)

theorem isWord_equals : isWord '=' = false := by decide

theorem isWord_close : isWord ')' = false := by decide

theorem name?_parameter (hn : IsParameter n) (hs : s.head?.any isWord = false) :
    name? (n ++ s) = some (n, s) := by
  obtain ⟨c, w, rfl, hc, hw⟩ := hn
  have hspan := Lexeme.span_append (List.all_eq_true.1 hw) hs
  rw [List.span_eq_takeWhile_dropWhile, Prod.mk.injEq] at hspan
  rw [List.cons_append, name?, if_pos hc, hspan.1, hspan.2]

theorem exists_of_name? (h : name? s = some (n, rest)) :
    IsParameter n ∧ s = n ++ rest ∧ rest.head?.any isWord = false := by
  cases s with
  | nil => cases h
  | cons c s =>
      rw [name?] at h
      split at h
      · rename_i hc
        cases h
        refine ⟨⟨c, _, rfl, hc, List.all_eq_true.2 fun d hd => List.mem_takeWhile_imp hd⟩, ?_, ?_⟩
        · rw [List.cons_append, List.takeWhile_append_dropWhile]
        · have hhead := List.head?_dropWhile_not isWord s
          cases hdrop : s.dropWhile isWord with
          | nil => rfl
          | cons d r =>
              rw [hdrop] at hhead
              exact hhead
      · cases h

theorem exists_of_afterArrow? (h : afterArrow? s = some rest) :
    ∃ ws, ws.all isSpace = true ∧ s = ws ++ '=' :: '>' :: rest := by
  unfold afterArrow? at h
  split at h
  · rename_i heq
    cases h
    refine ⟨s.takeWhile isSpace, List.all_eq_true.2 fun c hc => List.mem_takeWhile_imp hc, ?_⟩
    rw [← heq, List.takeWhile_append_dropWhile]
  · cases h

theorem exists_of_afterGroup? (h : afterGroup? s = some rest) :
    ∃ ws ws', ws.all isSpace = true ∧ ws'.all isSpace = true ∧
      s = ws ++ ')' :: (ws' ++ '=' :: '>' :: rest) := by
  unfold afterGroup? at h
  split at h
  · rename_i heq
    obtain ⟨ws', hws', rfl⟩ := exists_of_afterArrow? h
    refine ⟨s.takeWhile isSpace, ws', List.all_eq_true.2 fun c hc => List.mem_takeWhile_imp hc,
      hws', ?_⟩
    rw [← heq, List.takeWhile_append_dropWhile]
  · cases h

theorem IsArrow.arrow? (h : IsArrow n u) (hn : IsParameter n) (back : List Char) :
    arrow? (u ++ back) = some (n, back) := by
  cases h with
  | @bare ws hws =>
      obtain ⟨c, w, hsplit, hc, -⟩ := id hn
      have hne : c ≠ '(' := by
        rintro rfl
        cases hc
      have hname : name? (n ++ (ws ++ '=' :: '>' :: back)) = some (n, ws ++ '=' :: '>' :: back) :=
        name?_parameter hn (head?_any_isWord hws isWord_equals _)
      -- a parameter by itself, with white space before the sign
      have htext : n ++ ws ++ ['=', '>'] ++ back = c :: (w ++ (ws ++ '=' :: '>' :: back)) := by
        rw [hsplit]
        simp
      rw [htext, arrow?_bare hne, ← List.cons_append, ← hsplit, hname, Option.bind_some]
      dsimp only
      rw [afterArrow?_space hws]
      rfl
  | @group ws₁ ws₂ ws₃ hws₁ hws₂ hws₃ =>
      have hname : name? (n ++ (ws₂ ++ ')' :: (ws₃ ++ '=' :: '>' :: back))) =
          some (n, ws₂ ++ ')' :: (ws₃ ++ '=' :: '>' :: back)) :=
        name?_parameter hn (head?_any_isWord hws₂ isWord_close _)
      -- a parameter in parentheses, with white space on every side
      have htext : '(' :: (ws₁ ++ n ++ ws₂ ++ ')' :: (ws₃ ++ ['=', '>'])) ++ back =
          '(' :: (ws₁ ++ (n ++ (ws₂ ++ ')' :: (ws₃ ++ '=' :: '>' :: back)))) := by
        simp
      rw [htext, arrow?_group, dropWhile_space hws₁, hn.dropWhile, hname, Option.bind_some]
      dsimp only
      rw [afterGroup?_space hws₂ hws₃]
      rfl

/-- What is found as an arrow is the text of one. -/
theorem exists_of_arrow? (h : arrow? s = some (n, rest)) :
    IsParameter n ∧ ∃ u, IsArrow n u ∧ s = u ++ rest := by
  cases s with
  | nil => cases h
  | cons c s =>
      by_cases hc : c = '('
      · subst hc
        rw [arrow?_group] at h
        obtain ⟨⟨n', r⟩, hname, h⟩ := Option.bind_eq_some_iff.1 h
        obtain ⟨rest', hgroup, heq⟩ := Option.map_eq_some_iff.1 h
        cases heq
        obtain ⟨hn, hdrop, -⟩ := exists_of_name? hname
        obtain ⟨ws, ws', hws, hws', rfl⟩ := exists_of_afterGroup? hgroup
        -- the white space in front of the name was dropped, and is a part of the arrow
        have hlead : (s.takeWhile isSpace).all isSpace = true :=
          List.all_eq_true.2 fun c hc => List.mem_takeWhile_imp hc
        refine ⟨hn, _, .group hlead hws hws', ?_⟩
        have hs : s = s.takeWhile isSpace ++
            (n ++ (ws ++ ')' :: (ws' ++ '=' :: '>' :: rest))) := by
          rw [← hdrop, List.takeWhile_append_dropWhile]
        generalize s.takeWhile isSpace = lead at hs
        rw [hs]
        simp
      · rw [arrow?_bare hc] at h
        obtain ⟨⟨n', r⟩, hname, h⟩ := Option.bind_eq_some_iff.1 h
        obtain ⟨rest', harrow, heq⟩ := Option.map_eq_some_iff.1 h
        cases heq
        obtain ⟨hn, hs, -⟩ := exists_of_name? hname
        obtain ⟨ws, hws, rfl⟩ := exists_of_afterArrow? harrow
        exact ⟨hn, _, .bare hws, by rw [hs]; simp⟩

/-! ### Finding arrows -/

/-- The front of a lambda with one parameter. -/
def lambdaFront (n : List Char) : List Char := "lambda ".toList ++ n ++ [':']

/-- The arrow in front of a text, with what stands for it. -/
def arrowHit? (s : List Char) : Option (List Char × List Char) :=
  (arrow? s).map fun (n, rest) => (lambdaFront n, rest)

theorem replaceArrows_eq (s : List Char) : replaceArrows s = substitute arrowHit? s := rfl

theorem ne_quote_of_isWord {c : Char} (hc : isWord c = true) : c ≠ '\'' ∧ c ≠ '"' := by
  have hsingle : isWord '\'' = false := by decide
  have hdouble : isWord '"' = false := by decide
  constructor
  · rintro rfl
    exact Bool.false_ne_true (hsingle.symm.trans hc)
  · rintro rfl
    exact Bool.false_ne_true (hdouble.symm.trans hc)

theorem ne_quote_of_isSpace {ws : List Char} (hws : ws.all isSpace = true) :
    ∀ c ∈ ws, c ≠ '\'' ∧ c ≠ '"' := by
  intro c hc
  have hspace := List.all_eq_true.1 hws c hc
  constructor
  · rintro rfl
    cases hspace
  · rintro rfl
    cases hspace

theorem IsArrow.ne_quote (h : IsArrow n u) (hn : IsParameter n) :
    ∀ c ∈ u, c ≠ '\'' ∧ c ≠ '"' := by
  have hword : ∀ c ∈ n, c ≠ '\'' ∧ c ≠ '"' := fun c hc => ne_quote_of_isWord (hn.isWord c hc)
  have happend {a b : List Char} (ha : ∀ c ∈ a, c ≠ '\'' ∧ c ≠ '"')
      (hb : ∀ c ∈ b, c ≠ '\'' ∧ c ≠ '"') : ∀ c ∈ a ++ b, c ≠ '\'' ∧ c ≠ '"' :=
    List.forall_mem_append.2 ⟨ha, hb⟩
  have harrow : ∀ c ∈ ['=', '>'], c ≠ '\'' ∧ c ≠ '"' := List.all_iff_forall_prop.1 (by decide)
  cases h with
  | bare hws => exact happend (happend hword (ne_quote_of_isSpace hws)) harrow
  | @group ws₁ ws₂ ws₃ hws₁ hws₂ hws₃ =>
      have hend : ∀ c ∈ ')' :: (ws₃ ++ ['=', '>']), c ≠ '\'' ∧ c ≠ '"' :=
        List.forall_mem_cons.2 ⟨by decide, happend (ne_quote_of_isSpace hws₃) harrow⟩
      have hinner := happend (happend (ne_quote_of_isSpace hws₁) hword) (ne_quote_of_isSpace hws₂)
      exact List.forall_mem_cons.2 ⟨by decide, happend hinner hend⟩

/-- Where there is no equals sign no arrow is replaced. -/
theorem replaceArrows_eq_self (h : '=' ∉ s) : replaceArrows s = s := by
  refine substitute_eq_self fun t ht => ?_
  rw [Option.map_eq_none_iff, Option.eq_none_iff_forall_ne_some]
  rintro ⟨n, rest⟩ hfound
  obtain ⟨-, u, hu, rfl⟩ := exists_of_arrow? hfound
  have hmem : '=' ∈ u := by
    cases hu with
    | bare => simp
    | group => simp
  exact h (ht.subset (List.mem_append_left rest hmem))

theorem findsPlain_arrowHit? : FindsPlain arrowHit? := by
  intro s w rest h
  obtain ⟨⟨n, r⟩, harrow, heq⟩ := Option.map_eq_some_iff.1 h
  cases heq
  obtain ⟨hn, u, hu, hs⟩ := exists_of_arrow? harrow
  refine ⟨u, ?_, hu.ne_quote hn, hs⟩
  cases hu with
  | bare => simp
  | group => simp

/-- Whether no arrow reaches over the seam of two texts. -/
theorem findsWithin_arrowHit?_of (harrow : afterArrow? t = none) (hgt : t.head? ≠ some '>')
    (hclose : (t.dropWhile isSpace).head? ≠ some ')')
    (hword : t.head?.any isWord = true → ¬EndsName s)
    (hopen : ∀ ws, ws.all isSpace = true → arrow? ('(' :: (ws ++ t)) = none) :
    FindsWithin arrowHit? s t := by
  intro v hsuffix hv
  -- A name that reaches the seam in a tail reaches it in the whole text.
  have hname : t.head?.any isWord = true → ¬EndsName v := by
    rintro ht ⟨u, c, w, rfl, hc, hw⟩
    obtain ⟨u', rfl⟩ := hsuffix
    exact hword ht ⟨u' ++ u, c, w, (List.append_assoc ..).symm, hc, hw⟩
  rw [arrowHit?, arrowHit?, arrow?_append hv harrow hgt hclose hname, Option.map_map,
    Option.map_map]
  · rfl
  · rintro ws rfl hws
    exact hopen ws hws

/-- No arrow reaches over a mark that stands in none, or begins one. -/
theorem findsWithin_arrowHit?_mark {c : Char} (hspace : isSpace c = false)
    (hword : isWord c = false) (hc : c ∉ [')', '=', '>']) (s t : List Char) :
    FindsWithin arrowHit? s (c :: t) := by
  simp only [List.mem_cons, List.not_mem_nil, or_false, not_or] at hc
  obtain ⟨hclose, hequals, hgt⟩ := hc
  have hdrop : (c :: t).dropWhile isSpace = c :: t := List.dropWhile_cons_of_neg (by simp [hspace])
  refine findsWithin_arrowHit?_of ?_ (by simpa using hgt) (by simpa [hdrop] using hclose)
    (fun h => absurd (h : isWord c = true) (by simp [hword])) fun ws hws => ?_
  · rw [afterArrow?, hdrop]
    split
    · rename_i heq
      exact absurd (List.cons.inj heq).1 hequals
    · rfl
  · -- nor does the mark begin a name behind an opening parenthesis
    have hname : startsName c = false := by
      rw [← Bool.not_eq_true]
      intro h
      rw [isWord_of_startsName h] at hword
      cases hword
    rw [arrow?_group, dropWhile_space hws, hdrop, name?, if_neg (by simp [hname])]
    rfl

theorem findsWithin_arrowHit?_bare {ws : List Char} (hn : IsParameter n)
    (hws : ws.all isSpace = true) (hs : ¬EndsName s) (back : List Char) :
    FindsWithin arrowHit? s (n ++ (ws ++ '=' :: '>' :: back)) := by
  obtain ⟨c, w, hsplit, hc, -⟩ := id hn
  have hdrop := hn.dropWhile (ws ++ '=' :: '>' :: back)
  have hne {d : Char} (hd : isWord d = false) : c ≠ d := by
    rintro rfl
    exact Bool.false_ne_true (hd.symm.trans (isWord_of_startsName hc))
  refine findsWithin_arrowHit?_of ?_ ?_ ?_ (fun _ => hs) fun lead hlead => ?_
  · rw [afterArrow?, hdrop, hsplit]
    split
    · rename_i heq
      exact absurd (List.cons.inj heq).1 (hne isWord_equals)
    · rfl
  · rw [hsplit]
    exact fun h => hne (by decide) (Option.some.inj h)
  · rw [hdrop, hsplit]
    exact fun h => hne isWord_close (Option.some.inj h)
  · have hname : name? (n ++ (ws ++ '=' :: '>' :: back)) = some (n, ws ++ '=' :: '>' :: back) :=
      name?_parameter hn (head?_any_isWord hws isWord_equals _)
    -- behind an opening parenthesis the name would need a closing one before the sign
    have hgroup : afterGroup? (ws ++ '=' :: '>' :: back) = none := by
      rw [afterGroup?, dropWhile_space hws, List.dropWhile_cons_of_neg (by decide)]
      rfl
    rw [arrow?_group, dropWhile_space hlead, hdrop, hname, Option.bind_some]
    dsimp only
    rw [hgroup]
    rfl

end Curly.Shorthand
