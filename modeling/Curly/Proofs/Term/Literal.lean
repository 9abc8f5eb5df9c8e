import Curly.Proofs.Term.Shorthand

/-!
String literals and the substitutions. The quotations that these know are not quite the literals of
the lexer. A text that is made of quotations is gone through in step: there every literal is copied,
and every shorthand outside of them is replaced. A backslash at the end of a line, and a quote
between three quotes of its kind, put the substitutions out of step.
-/

namespace Curly.Shorthand

open Text Text.Unicode Form
open Lexeme (normalizeLines)

variable {hit? : List Char → Option (List Char × List Char)}
  {quote : Char} {body n p rest s t u : List Char}

/-! ## String literals -/

/-- The quotes at either end of a literal. -/
def quotes (quote : Char) (triple : Bool) : List Char :=
  if triple then [quote, quote, quote] else [quote]

/-- Whether a text stands between the quotes of a string literal, for the lexer. -/
structure IsLiteral (quote : Char) (triple : Bool) (body : List Char) : Prop where
  isQuote : quote = '\'' ∨ quote = '"'
  reads : Lexeme.quoted? quote triple (normalizeLines (body ++ quotes quote triple)) =
    some (normalizeLines body, [])

/-- A literal. -/
def literal (quote : Char) (triple : Bool) (body : List Char) : List Char :=
  quotes quote triple ++ body ++ quotes quote triple

theorem literal_cons (quote : Char) (triple : Bool) (body s : List Char) :
    ∃ v, literal quote triple body ++ s = quote :: v := by
  cases triple <;> exact ⟨_, rfl⟩

/-- What the lexer finds between quotes: every backslash has a character behind it, and a quote by
itself stands between three of its kind only. -/
inductive IsInside (quote : Char) (triple : Bool) : List Char → Prop
  | nil : IsInside quote triple []
  | escape {c : Char} {s : List Char} (hs : IsInside quote triple s) :
      IsInside quote triple ('\\' :: c :: s)
  | char {c : Char} {s : List Char} (hslash : c ≠ '\\') (hc : c = quote → triple = true)
      (hs : IsInside quote triple s) : IsInside quote triple (c :: s)

theorem isInside_of_quoted? {triple : Bool}
    (h : Lexeme.quoted? quote triple s = some (body, rest)) : IsInside quote triple body := by
  fun_induction Lexeme.quoted? quote triple s generalizing body rest with
  | case1 => cases h
  | case2 => cases h
  | case3 c s ih =>
      obtain ⟨⟨b, r⟩, hs, heq⟩ := Option.map_eq_some_iff.1 h
      cases heq
      exact .escape (ih hs)
  | case4 =>
      cases h
      exact .nil
  | case5 => cases h
  | case6 c s hslash hclose hline ih =>
      obtain ⟨⟨b, r⟩, hs, heq⟩ := Option.map_eq_some_iff.1 h
      cases heq
      refine .char (fun h => hslash h) ?_ (ih hs)
      -- a line feed is left to a string between three quotes
      rintro rfl
      cases triple with
      | true => rfl
      | false => simp at hclose

theorem IsInside.tail {triple : Bool} {c : Char} (hslash : c ≠ '\\')
    (h : IsInside quote triple (c :: s)) : IsInside quote triple s := by
  cases h with
  | escape => exact absurd rfl hslash
  | char _ _ hs => exact hs

theorem IsInside.behind_slash {triple : Bool} {c : Char}
    (h : IsInside quote triple ('\\' :: c :: s)) : IsInside quote triple s := by
  cases h with
  | escape hs => exact hs
  | char hslash => exact absurd rfl hslash

theorem not_isInside_slash {triple : Bool} : ¬IsInside quote triple ['\\'] := by
  intro h
  cases h with
  | char hslash => exact hslash rfl

theorem IsInside.triple {triple : Bool} (hslash : quote ≠ '\\')
    (h : IsInside quote triple (quote :: s)) : triple = true := by
  cases h with
  | escape => exact absurd rfl hslash
  | char _ hc => exact hc rfl

/-- A line end in front is normalized, and what follows it stays inside. -/
theorem IsInside.line {triple : Bool} (hquote : quote = '\'' ∨ quote = '"')
    (h : ∀ t, normalizeLines ('\r' :: s) = '\n' :: t → IsInside quote triple t) :
    IsInside quote triple (normalizeLines s) := by
  have hline : '\n' ≠ quote := Lexeme.ne_of_quote hquote (by decide)
  cases s with
  | nil => exact .nil
  | cons c s =>
      -- A return with a line feed behind it is one line end, and so is a return alone.
      by_cases hc : c = '\n'
      · subst hc
        rw [Lexeme.normalizeLines_cons (by decide)]
        exact .char (by decide) (fun h => absurd h hline) (h _ (by rw [normalizeLines]))
      · refine h _ ?_
        rw [normalizeLines]
        rintro t heq
        exact hc (List.cons.inj heq).1

/-- Whether a text is plain, or plain up to a backslash at the end of a line or, between three
quotes, to one of them by itself. -/
def PlainUpTo (quote : Char) (triple : Bool) (body : List Char) : Prop :=
  IsPlain quote body ∨ ∃ p t, IsPlain quote p ∧
    (body = p ++ '\\' :: '\n' :: t ∨ triple = true ∧ body = p ++ quote :: t)

theorem PlainUpTo.char {triple : Bool} {c : Char} (hc : c ≠ quote ∧ c ≠ '\\')
    (h : PlainUpTo quote triple s) : PlainUpTo quote triple (c :: s) := by
  obtain hplain | ⟨p, t, hp, heq⟩ := h
  · exact .inl (.char hc hplain)
  · exact .inr ⟨c :: p, t, .char hc hp, by simpa using heq⟩

theorem PlainUpTo.escape {triple : Bool} {c : Char} (hc : c ≠ '\n')
    (h : PlainUpTo quote triple s) : PlainUpTo quote triple ('\\' :: c :: s) := by
  obtain hplain | ⟨p, t, hp, heq⟩ := h
  · exact .inl (.escape hc hplain)
  · exact .inr ⟨'\\' :: c :: p, t, .escape hc hp, by simpa using heq⟩

/-- A line end stands for itself between quotes, however it is written. -/
theorem IsInside.tail_lines {triple : Bool} {c : Char} (hquote : quote = '\'' ∨ quote = '"')
    (hc : c ≠ '\\') (h : IsInside quote triple (normalizeLines (c :: s))) :
    IsInside quote triple (normalizeLines s) := by
  by_cases hreturn : c = '\r'
  · subst hreturn
    refine .line hquote fun u hu => ?_
    rw [hu] at h
    exact h.tail (by decide)
  · rw [Lexeme.normalizeLines_cons hreturn] at h
    exact h.tail hc

theorem IsInside.behind_slash_lines {triple : Bool} {c : Char} (hquote : quote = '\'' ∨ quote = '"')
    (h : IsInside quote triple ('\\' :: normalizeLines (c :: s))) :
    IsInside quote triple (normalizeLines s) := by
  by_cases hreturn : c = '\r'
  · subst hreturn
    refine .line hquote fun u hu => ?_
    rw [hu] at h
    exact h.behind_slash
  · rw [Lexeme.normalizeLines_cons hreturn] at h
    exact h.behind_slash

/-- What stands between quotes for the lexer is plain up to what puts the substitutions out of
step. -/
theorem IsInside.plainUpTo {triple : Bool} (hquote : quote = '\'' ∨ quote = '"')
    (h : IsInside quote triple (normalizeLines body)) : PlainUpTo quote triple body := by
  induction hn : body.length using Nat.strong_induction_on generalizing body with
  | _ n ih =>
    subst hn
    cases body with
    | nil => exact .inl .nil
    | cons c s =>
        -- by strong induction, for a backslash goes with the character behind it
        by_cases hslash : c = '\\'
        · subst hslash
          rw [Lexeme.normalizeLines_cons (by decide)] at h
          cases s with
          | nil => exact absurd h not_isInside_slash
          | cons c t =>
              by_cases hline : c = '\n'
              · exact .inr ⟨[], t, .nil, .inl (by rw [hline]; rfl)⟩
              have hlt : t.length < ('\\' :: c :: t).length := by
                simp only [List.length_cons]
                omega
              exact (ih _ hlt (h.behind_slash_lines hquote) rfl).escape hline
        by_cases hc : c = quote
        · subst hc
          have hreturn : c ≠ '\r' := (Lexeme.ne_of_quote hquote (by decide)).symm
          rw [Lexeme.normalizeLines_cons hreturn] at h
          exact .inr ⟨[], s, .nil, .inr ⟨h.triple hslash, rfl⟩⟩
        exact (ih _ (Nat.lt_succ_self _) (h.tail_lines hquote hslash) rfl).char ⟨hc, hslash⟩

theorem IsLiteral.plainUpTo {triple : Bool} (h : IsLiteral quote triple body) :
    PlainUpTo quote triple body :=
  (isInside_of_quoted? h.reads).plainUpTo h.isQuote

/-- A plain literal is made of quotations. -/
theorem IsLiteral.inStep {triple : Bool} (h : IsLiteral quote triple body)
    (hbody : IsPlain quote body) : InStep (literal quote triple body) := by
  cases triple with
  | false => exact .quotation h.isQuote hbody .nil
  | true =>
      have hinner := InStep.quotation h.isQuote hbody (.quotation h.isQuote .nil .nil)
      have hsplit : literal quote true body =
          quote :: ([] ++ quote :: (quote :: (body ++ quote :: (quote :: ([] ++ [quote]))))) := by
        simp [literal, quotes]
      rw [hsplit]
      exact .quotation h.isQuote .nil hinner

theorem ne_slash (hquote : quote = '\'' ∨ quote = '"') : quote ≠ '\\' := by
  rintro rfl
  simp at hquote

/-- The quotes in front of a backslash at the end of a line are copied, and what follows them is not
taken for a string. -/
theorem substitute_continued (hquote : quote = '\'' ∨ quote = '"') (triple : Bool)
    (hp : IsPlain quote p) (hnone : ∀ s, hit? (quote :: s) = none) (t : List Char) :
    substitute hit? (quotes quote triple ++ (p ++ '\\' :: '\n' :: t)) =
      quotes quote triple ++ substitute hit? (p ++ '\\' :: '\n' :: t) := by
  have hopen : stringLiteral? (quote :: (p ++ '\\' :: '\n' :: t)) = none := by
    rw [stringLiteral?_quote hquote, hp.quoted?_continued]
    rfl
  cases triple with
  | false => exact substitute_cons hopen (hnone _)
  | true =>
      -- the first two quotes are a quotation
      have hempty := substitute_quotation hit? hquote .nil
        (quote :: (p ++ '\\' :: '\n' :: t))
      rw [substitute_cons hopen (hnone _)] at hempty
      exact hempty

/-- Three quotes and what follows them up to the next one are copied. -/
theorem substitute_triple (hit? : List Char → Option (List Char × List Char))
    (hquote : quote = '\'' ∨ quote = '"') (hp : IsPlain quote p)
    (t : List Char) :
    substitute hit? (quotes quote true ++ (p ++ quote :: t)) =
      quotes quote true ++ (p ++ quote :: substitute hit? t) := by
  have hempty := substitute_quotation hit? hquote .nil (quote :: (p ++ quote :: t))
  rw [substitute_quotation hit? hquote hp] at hempty
  exact hempty

/-- A plain literal is copied. -/
theorem substitute_literal {triple : Bool} (h : IsLiteral quote triple body)
    (hbody : IsPlain quote body) (back : List Char) :
    substitute hit? (literal quote triple body ++ back) =
      literal quote triple body ++ substitute hit? back := by
  cases triple with
  | false =>
      have hcopy := substitute_quotation hit? h.isQuote hbody back
      simpa [literal, quotes] using hcopy
  -- Of the three quotes at the end the last two pass for an empty literal.
  | true =>
      have hcopy := substitute_triple hit? h.isQuote hbody (quote :: quote :: back)
      have hend := substitute_quotation hit? h.isQuote .nil back
      rw [List.nil_append, List.nil_append] at hend
      rw [hend] at hcopy
      simpa [literal, quotes] using hcopy

theorem FindsPlain.none_quote (h : FindsPlain hit?) (hquote : quote = '\'' ∨ quote = '"')
    (s : List Char) : hit? (quote :: s) = none := by
  rw [Option.eq_none_iff_forall_ne_some]
  rintro ⟨w, rest⟩ hfound
  obtain ⟨u, hne, hu, hsplit⟩ := h hfound
  cases u with
  | nil => exact hne rfl
  | cons c u =>
      obtain ⟨rfl, -⟩ := List.cons.inj hsplit
      have hc := hu quote List.mem_cons_self
      exact hquote.elim hc.1 hc.2

/-- What is searched for has no quotes, and does not reach up to one. -/
structure StopsAtQuotes (hit? : List Char → Option (List Char × List Char)) : Prop where
  findsPlain : FindsPlain hit?
  findsWithin : ∀ {quote : Char}, quote = '\'' ∨ quote = '"' → ∀ s t,
    FindsWithin hit? s (quote :: t)

theorem isWord_of_quote (hquote : quote = '\'' ∨ quote = '"') : isWord quote = false := by
  obtain rfl | rfl := hquote
  · decide
  · decide

theorem stopsAtQuotes_indexHit? (r : List Char) : StopsAtQuotes (indexHit? r) where
  findsPlain := findsPlain_indexHit? r
  findsWithin hquote s t := by
    refine findsWithin_indexHit? r s fun c hc => ?_
    obtain rfl := Option.some.inj hc
    exact isWord_of_quote hquote

theorem stopsAtQuotes_arrowHit? : StopsAtQuotes arrowHit? where
  findsPlain := findsPlain_arrowHit?
  findsWithin hquote s t := by
    refine findsWithin_arrowHit?_mark ?_ (isWord_of_quote hquote) ?_ s t
    · obtain rfl | rfl := hquote <;> rfl
    · obtain rfl | rfl := hquote <;> decide

/-- A text in step up to a literal is gone through as far as the quotes of the literal. -/
theorem StopsAtQuotes.substitute_append (hit : StopsAtQuotes hit?) {triple : Bool}
    (h : IsLiteral quote triple body) (hs : InStep s) (back : List Char) :
    substitute hit? (s ++ literal quote triple body ++ back) =
      substitute hit? s ++ substitute hit? (literal quote triple body ++ back) := by
  obtain ⟨u, hu⟩ : ∃ u, literal quote triple body ++ back = quote :: u := by
    cases triple <;> exact ⟨_, rfl⟩
  rw [List.append_assoc, hu]
  exact Shorthand.substitute_append hit.findsPlain hs (hit.findsWithin h.isQuote s u)

/-- **Literals are copied.** Behind a text in step a plain literal is copied, and the text is in
step behind it. -/
theorem StopsAtQuotes.copies (hit : StopsAtQuotes hit?) {triple : Bool}
    (h : IsLiteral quote triple body) (hbody : IsPlain quote body) (hs : InStep s)
    (back : List Char) :
    substitute hit? (s ++ literal quote triple body ++ back) =
      substitute hit? s ++ literal quote triple body ++ substitute hit? back := by
  rw [hit.substitute_append h hs, substitute_literal h hbody, List.append_assoc]

/-- A backslash at the end of a line makes a literal be read as if it were not one. -/
theorem StopsAtQuotes.continued (hit : StopsAtQuotes hit?) {triple : Bool}
    (h : IsLiteral quote triple body) (hp : IsPlain quote p) (hbody : body = p ++ '\\' :: '\n' :: t)
    (hs : InStep s) (back : List Char) :
    substitute hit? (s ++ literal quote triple body ++ back) =
      substitute hit? s ++ quotes quote triple ++
        substitute hit? (body ++ quotes quote triple ++ back) := by
  have hquotes := substitute_continued h.isQuote triple hp
    (hit.findsPlain.none_quote h.isQuote) (t ++ quotes quote triple ++ back)
  rw [hit.substitute_append h hs, List.append_assoc]
  refine congrArg _ ?_
  simpa [literal, hbody] using hquotes

/-- A quote between three quotes ends what is copied of a literal. -/
theorem StopsAtQuotes.cutShort (hit : StopsAtQuotes hit?) (h : IsLiteral quote true body)
    (hp : IsPlain quote p) (hbody : body = p ++ quote :: t) (hs : InStep s) (back : List Char) :
    substitute hit? (s ++ literal quote true body ++ back) =
      substitute hit? s ++ (quotes quote true ++ p ++ [quote]) ++
        substitute hit? (t ++ quotes quote true ++ back) := by
  have hquotes := substitute_triple hit? h.isQuote hp (t ++ quotes quote true ++ back)
  rw [hit.substitute_append h hs, List.append_assoc]
  refine congrArg _ ?_
  simpa [literal, hbody] using hquotes

/-! ## Shorthands -/

/-- What is found behind a text in step is replaced. -/
theorem substitute_found {w : List Char} (hplain : FindsPlain hit?) (hs : InStep s)
    (hwithin : FindsWithin hit? s (u ++ rest)) (hu : u ≠ [])
    (hfound : hit? (u ++ rest) = some (w, rest)) :
    substitute hit? (s ++ u ++ rest) = substitute hit? s ++ w ++ substitute hit? rest := by
  -- What is found begins with no quote, so no literal begins there.
  have hquote : ∀ c ∈ (u ++ rest).head?, c ≠ '\'' ∧ c ≠ '"' := by
    intro c hc
    obtain ⟨v, hne, hv, hsplit⟩ := hplain hfound
    obtain ⟨d, v, rfl⟩ := List.exists_cons_of_ne_nil hne
    rw [hsplit] at hc
    obtain rfl := Option.some.inj hc
    exact hv d List.mem_cons_self
  obtain ⟨c, u, rfl⟩ := List.exists_cons_of_ne_nil hu
  rw [List.append_assoc, substitute_append hplain hs hwithin, List.append_assoc]
  rw [List.cons_append] at hfound ⊢
  rw [substitute_hit (stringLiteral?_of_ne (hquote c rfl) _) hfound
    (by rw [List.length_append]; omega)]

theorem replaceIndex_found (hs : InStep s) (hrest : atWordEnd rest = true) (r : List Char) :
    replaceIndex r (s ++ "@index".toList ++ rest) =
      replaceIndex r s ++ r ++ replaceIndex r rest := by
  refine substitute_found (findsPlain_indexHit? r) hs ?_ (by decide) ?_
  · refine findsWithin_indexHit? r s fun c hc => ?_
    obtain rfl : '@' = c := Option.some.inj hc
    decide
  · have hword : startsWithWord "@index".toList ("@index".toList ++ rest) = true := by
      rw [startsWithWord, Bool.and_eq_true, List.isPrefixOf_iff_prefix, List.drop_left]
      exact ⟨List.prefix_append _ _, hrest⟩
    show indexHit? r ("@index".toList ++ rest) = some (r, rest)
    rw [indexHit?, if_pos hword]
    rfl

theorem replaceArrows_found (hn : IsParameter n) (hu : IsArrow n u) (hs : InStep s)
    (hname : u.head? = some '(' ∨ ¬EndsName s) (rest : List Char) :
    replaceArrows (s ++ u ++ rest) = replaceArrows s ++ lambdaFront n ++ replaceArrows rest := by
  have hfound : arrowHit? (u ++ rest) = some (lambdaFront n, rest) := by
    rw [arrowHit?, hu.arrow? hn]
    rfl
  cases hu with
  | @bare ws hws =>
      -- a parameter without parentheses could go on with the name in front of it
      have hends : ¬EndsName s := by
        refine hname.resolve_left fun hhead => ?_
        obtain ⟨c, w, rfl, hc, -⟩ := hn
        obtain rfl : c = '(' := Option.some.inj hhead
        cases hc
      have htext : n ++ ws ++ ['=', '>'] ++ rest = n ++ (ws ++ '=' :: '>' :: rest) := by simp
      refine substitute_found findsPlain_arrowHit? hs ?_ (by simp) hfound
      rw [htext]
      exact findsWithin_arrowHit?_bare hn hws hends rest
  | group =>
      refine substitute_found findsPlain_arrowHit? hs ?_ (by simp) hfound
      exact findsWithin_arrowHit?_mark (by decide) (by decide) (by decide) s _

/-- **The substitutions and string literals.** Behind a text in step, a literal is copied and leaves
the text in step, if nothing in it is a backslash at the end of a line or, between three quotes, one
of them by itself; and every `@index` that ends as a word, and every arrow, is replaced. In a
literal with such a backslash the substitutions go on as if it were none, and three quotes with one
of them by itself in between are copied up to this one only. -/
theorem replace_behind_inStep (r front back : List Char) (hfront : InStep front) :
    (∀ quote triple body, IsLiteral quote triple body →
      (IsPlain quote body → InStep (front ++ literal quote triple body) ∧
        ∀ f ∈ [replaceIndex r, replaceArrows],
          f (front ++ literal quote triple body ++ back) =
            f front ++ literal quote triple body ++ f back) ∧
      (¬IsPlain quote body → ∃ p t, IsPlain quote p ∧
        ((body = p ++ '\\' :: '\n' :: t ∧ ∀ f ∈ [replaceIndex r, replaceArrows],
            f (front ++ literal quote triple body ++ back) =
              f front ++ quotes quote triple ++ f (body ++ quotes quote triple ++ back)) ∨
          triple = true ∧ body = p ++ quote :: t ∧ ∀ f ∈ [replaceIndex r, replaceArrows],
            f (front ++ literal quote triple body ++ back) =
              f front ++ (quotes quote triple ++ p ++ [quote]) ++
                f (t ++ quotes quote triple ++ back)))) ∧
    (atWordEnd back = true → replaceIndex r (front ++ "@index".toList ++ back) =
      replaceIndex r front ++ r ++ replaceIndex r back) ∧
    ∀ n u, IsParameter n → IsArrow n u → u.head? = some '(' ∨ ¬EndsName front →
      replaceArrows (front ++ u ++ back) =
        replaceArrows front ++ lambdaFront n ++ replaceArrows back := by
  -- of both substitutions all that is used is that they look for nothing that begins with a quote
  have hstops : ∀ f ∈ [replaceIndex r, replaceArrows],
      ∃ hit?, f = substitute hit? ∧ StopsAtQuotes hit? := by
    intro f hf
    simp only [List.mem_cons, List.not_mem_nil, or_false] at hf
    obtain rfl | rfl := hf
    · exact ⟨_, rfl, stopsAtQuotes_indexHit? r⟩
    · exact ⟨_, rfl, stopsAtQuotes_arrowHit?⟩
  refine ⟨fun quote triple body h => ⟨fun hbody => ?_, fun hbody => ?_⟩,
    fun hback => replaceIndex_found hfront hback r,
    fun n u hn hu hname => replaceArrows_found hn hu hfront hname back⟩
  · refine ⟨hfront.append (h.inStep hbody), fun f hf => ?_⟩
    obtain ⟨hit?, rfl, hit⟩ := hstops f hf
    exact hit.copies h hbody hfront back
  · obtain ⟨p, t, hp, hcontinued | ⟨rfl, hinner⟩⟩ := h.plainUpTo.resolve_left hbody
    · refine ⟨p, t, hp, .inl ⟨hcontinued, fun f hf => ?_⟩⟩
      obtain ⟨hit?, rfl, hit⟩ := hstops f hf
      exact hit.continued h hp hcontinued hfront back
    · refine ⟨p, t, hp, .inr ⟨rfl, hinner, fun f hf => ?_⟩⟩
      obtain ⟨hit?, rfl, hit⟩ := hstops f hf
      exact hit.cutShort h hp hinner hfront back

/-- An index in a string is copied, and one behind the string is replaced. -/
theorem replace_behind_inStep_index :
    replaceIndex ['0'] "a + '@index' + @index".toList = "a + '@index' + 0".toList ∧
      replaceArrows "a + (x) => x".toList = "a + lambda x: x".toList := by
  have hfront : InStep "a + ".toList :=
    inStep_of_not_quote <| List.all_iff_forall_prop.1 (by decide)
  have hliteral : IsLiteral '\'' false "@index".toList := ⟨.inl rfl, by decide⟩
  have hplain : IsPlain '\'' "@index".toList :=
    .char (by decide) <| .char (by decide) <| .char (by decide) <| .char (by decide) <|
      .char (by decide) <| .char (by decide) .nil
  constructor
  · have hcopy := ((replace_behind_inStep ['0'] _ " + @index".toList hfront).1 _ _ _ hliteral).1
      hplain
    have hindex := (replace_behind_inStep ['0'] " + ".toList []
      (inStep_of_not_quote (List.all_iff_forall_prop.1 (by decide)))).2.1 rfl
    have heq := hcopy.2 _ List.mem_cons_self
    -- behind the string the text begins anew, and its index is found
    have hback : " + @index".toList = " + ".toList ++ "@index".toList ++ [] := by decide
    rw [hback, hindex] at heq
    have hnil : replaceIndex ['0'] [] = [] := substitute_nil
    have ha : replaceIndex ['0'] "a + ".toList = "a + ".toList :=
      replaceIndex_eq_self (by decide) _
    have hplus : replaceIndex ['0'] " + ".toList = " + ".toList :=
      replaceIndex_eq_self (by decide) _
    rw [hnil, ha, hplus] at heq
    exact heq
  · have harrow := (replace_behind_inStep ['0'] _ " x".toList hfront).2.2 ['x'] "(x) =>".toList
      ⟨'x', [], rfl, by decide, rfl⟩ (@IsArrow.group ['x'] [] [] [' '] rfl rfl rfl) (.inl rfl)
    have ha : replaceArrows "a + ".toList = "a + ".toList := replaceArrows_eq_self (by decide)
    have hx : replaceArrows " x".toList = " x".toList := replaceArrows_eq_self (by decide)
    rw [ha, hx] at harrow
    exact harrow

end Curly.Shorthand
