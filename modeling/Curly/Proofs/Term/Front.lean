import Curly.Proofs.Expr.Place
import Curly.Proofs.Term.Padded

/-!
Fronts of code up to a binding. What has been written of some code is made of literals and of other
characters, and ends as the text does that it stands for, as far as a number may reach. So where a
binding stands apart in the text, the front in the code ends with a seam.
-/

namespace Curly.Shorthand

open Text Text.Unicode
open Lexeme (normalizeLines isNameChar Closes EndsExponent isNumeralChar IsBinding EndsBinding
  ScansAlike AtSeam)

variable {quote : Char} {body n p r s t u F G : List Char}

/-! ## Fronts of code -/

/-- Whether some code in front of a text is made of literals and of other characters, without a
remark. -/
inductive Passes (t : List Char) : List Char → Prop
  | nil : Passes t []
  | char {c : Char} {s : List Char} (hc : c ∉ ['\'', '"', '#']) (hs : Passes t s) :
      Passes t (c :: s)
  | literal {quote : Char} {triple : Bool} {body s : List Char} (h : IsLiteral quote triple body)
      (hend : triple = false → body = [] → (s ++ t).head? ≠ some quote) (hs : Passes t s) :
      Passes t (literal quote triple body ++ s)

theorem Passes.append (hs : Passes (u ++ t) s) (hu : Passes t u) : Passes t (s ++ u) := by
  induction hs with
  | nil => exact hu
  | char hc _ ih => exact .char hc ih
  | literal h hend _ ih =>
      rw [List.append_assoc]
      refine .literal h ?_ ih
      rwa [List.append_assoc]

theorem Passes.concat {c : Char} (hc : c ∉ ['\'', '"', '#']) (hs : Passes (c :: t) s) :
    Passes t (s ++ [c]) :=
  hs.append (u := [c]) (.char hc .nil)

theorem passes_of_forall (hs : ∀ c ∈ s, c ∉ ['\'', '"', '#']) (t : List Char) : Passes t s := by
  induction s with
  | nil => exact .nil
  | cons c s ih =>
      obtain ⟨hc, hs⟩ := List.forall_mem_cons.1 hs
      exact .char hc (ih hs)

/-- Line ends are normalized where a text is put together, unless a line feed is behind. -/
theorem normalizeLines_append_of_head (s : List Char) (ht : t.head? ≠ some '\n') :
    normalizeLines (s ++ t) = normalizeLines s ++ normalizeLines t := by
  fun_induction normalizeLines s with
  | case1 => rfl
  | case2 s ih => simp only [List.cons_append, normalizeLines, ih]
  | case3 s hs ih =>
      -- no line feed follows this carriage return, not even one from behind
      rw [List.cons_append, normalizeLines, ih, List.cons_append]
      intro u hu
      cases s with
      | nil => exact ht (congrArg List.head? hu)
      | cons d s =>
          obtain ⟨rfl, -⟩ := List.cons.inj hu
          exact hs s rfl
  | case4 c s hpair hc ih =>
      rw [List.cons_append, Lexeme.normalizeLines_cons hc, ih, List.cons_append]

/-- A carriage return ends a line, with a line feed behind it or without one. -/
theorem exists_normalizeLines_return (s : List Char) :
    ∃ t, normalizeLines ('\r' :: s) = '\n' :: normalizeLines t ∧ (s = t ∨ s = '\n' :: t) := by
  by_cases hs : ∃ t, s = '\n' :: t
  · obtain ⟨t, rfl⟩ := hs
    exact ⟨t, by rw [normalizeLines], .inr rfl⟩
  · refine ⟨s, ?_, .inl rfl⟩
    rw [normalizeLines]
    exact fun t ht => hs ⟨t, ht⟩

/-- A character stays in front, unless it is a line end. -/
theorem exists_normalizeLines_cons (c : Char) (s : List Char) :
    ∃ d t, normalizeLines (c :: s) = d :: normalizeLines t ∧ (d = c ∨ d = '\n') := by
  by_cases hreturn : c = '\r'
  · subst hreturn
    obtain ⟨t, heq, -⟩ := exists_normalizeLines_return s
    exact ⟨_, t, heq, .inr rfl⟩
  · exact ⟨c, s, Lexeme.normalizeLines_cons hreturn s, .inl rfl⟩

theorem normalizeLines_eq_nil (h : normalizeLines s = []) : s = [] := by
  cases s with
  | nil => rfl
  | cons c s =>
      obtain ⟨d, t, heq, -⟩ := exists_normalizeLines_cons c s
      rw [heq] at h
      cases h

theorem head?_normalizeLines_quote (hquote : quote = '\'' ∨ quote = '"')
    (h : (normalizeLines s).head? = some quote) : s.head? = some quote := by
  cases s with
  | nil => cases h
  | cons c s =>
      obtain ⟨d, t, heq, rfl | rfl⟩ := exists_normalizeLines_cons c s
      · rw [heq] at h
        exact h
      · rw [heq] at h
        exact absurd (Option.some.inj h) (Lexeme.ne_of_quote hquote (by decide))

theorem normalizeLines_quotes {triple : Bool} (hquote : quote = '\'' ∨ quote = '"')
    (s : List Char) :
    normalizeLines (quotes quote triple ++ s) = quotes quote triple ++ normalizeLines s := by
  have hreturn : quote ≠ '\r' := (Lexeme.ne_of_quote hquote (by decide)).symm
  cases triple <;> simp [quotes, Lexeme.normalizeLines_cons hreturn]

theorem normalizeLines_closed {triple : Bool} (hquote : quote = '\'' ∨ quote = '"')
    (body s : List Char) : normalizeLines (body ++ (quotes quote triple ++ s)) =
      normalizeLines body ++ (quotes quote triple ++ normalizeLines s) := by
  rw [normalizeLines_append_of_head, normalizeLines_quotes hquote]
  have hline : quote ≠ '\n' := (Lexeme.ne_of_quote hquote (by decide)).symm
  cases triple <;> simpa [quotes] using hline

theorem normalizeLines_literal {triple : Bool} (hquote : quote = '\'' ∨ quote = '"')
    (body s : List Char) : normalizeLines (literal quote triple body ++ s) =
      literal quote triple (normalizeLines body) ++ normalizeLines s := by
  rw [literal, List.append_assoc, List.append_assoc, normalizeLines_quotes hquote,
    normalizeLines_closed hquote, literal, List.append_assoc, List.append_assoc]

/-- The lexer can be followed through such code. -/
theorem Passes.runs (h : Passes t s) : Lexeme.Runs (normalizeLines s) := by
  induction h with
  | nil => exact .nil
  | @char c s hc hs ih =>
      by_cases hreturn : c = '\r'
      · subst hreturn
        -- a return ends a line by itself, or goes with the line feed behind it
        obtain ⟨t, heq, rfl | rfl⟩ := exists_normalizeLines_return s
        · rw [heq]
          exact .char (by decide) ih
        · rwa [heq, ← Lexeme.normalizeLines_cons (by decide)]
      · rw [Lexeme.normalizeLines_cons hreturn]
        exact .char hc ih
  | @literal quote triple body s h hend hs ih =>
      rw [normalizeLines_literal h.isQuote]
      refine .string h.isQuote ?_ ?_ ih
      · have hreads := h.reads
        have hclosed : normalizeLines (body ++ (quotes quote triple ++ [])) = _ :=
          normalizeLines_closed h.isQuote body []
        rw [List.append_nil, normalizeLines, List.append_nil] at hclosed
        rwa [hclosed] at hreads
      · intro htriple hbody hhead
        have hnil : body = [] := normalizeLines_eq_nil hbody
        have hs := head?_normalizeLines_quote h.isQuote hhead
        -- two quotes that close at once are not followed by a third one
        refine hend htriple hnil ?_
        obtain ⟨u, rfl⟩ := List.head?_eq_some_iff.1 hs
        rfl

/-- Whether some code ends as a text does, as far as a number may reach. -/
def Tails (s p : List Char) : Prop :=
  ∀ w, w <:+ s → (∀ c ∈ w, isNumeralChar c = true) → w <:+ p

theorem Tails.nil (p : List Char) : Tails [] p := by
  intro w hw _
  rw [List.suffix_nil.1 hw]
  exact List.nil_suffix

theorem tails_of_getLast? {c : Char} (hs : s.getLast? = some c) (hc : isNumeralChar c = false)
    (p : List Char) : Tails s p := by
  intro w hw hnumeral
  obtain rfl | hne := eq_or_ne w []
  · exact List.nil_suffix
  · obtain ⟨u, rfl⟩ := hw
    rw [List.getLast?_append_of_ne_nil _ hne] at hs
    rw [hnumeral c (List.mem_of_getLast? hs)] at hc
    cases hc

theorem Tails.concat (h : Tails s p) (c : Char) : Tails (s ++ [c]) (p ++ [c]) := by
  intro w hw hnumeral
  cases w using List.reverseRecOn with
  | nil => exact List.nil_suffix
  | append_singleton w d =>
      obtain ⟨u, hu⟩ := hw
      rw [← List.append_assoc] at hu
      obtain ⟨rfl, hd⟩ := List.append_inj' hu rfl
      obtain rfl : d = c := List.singleton_inj.1 hd
      obtain ⟨v, rfl⟩ := h w (List.suffix_append u w) fun e he =>
        hnumeral e (List.mem_append_left _ he)
      exact ⟨v, (List.append_assoc ..).symm⟩

theorem Tails.closes (h : Tails s p) (hp : p ≠ [] → Closes p) (hs : s ≠ []) : Closes s := by
  obtain ⟨c, hc⟩ := Option.ne_none_iff_exists'.1 (mt List.getLast?_eq_none_iff.1 hs)
  refine ⟨c, hc, ?_⟩
  cases hnumeral : isNumeralChar c with
  | false =>
      rw [isNumeralChar, Bool.or_eq_false_iff, Bool.or_eq_false_iff, Bool.or_eq_false_iff,
        beq_eq_false_iff_ne] at hnumeral
      exact hnumeral.1.1
  -- A last character that may go on in a number is the last one of the other text.
  | true =>
      obtain ⟨u, rfl⟩ : ∃ u, s = u ++ [c] := by
        obtain ⟨u, rfl⟩ := List.getLast?_eq_some_iff.1 hc
        exact ⟨u, rfl⟩
      obtain ⟨v, rfl⟩ := h [c] (List.suffix_append u [c]) (by simpa using hnumeral)
      obtain ⟨d, hd, hclosed⟩ := hp (by simp)
      rw [List.getLast?_concat] at hd
      obtain rfl : c = d := Option.some.inj hd
      exact hclosed

theorem Tails.endsExponent (h : Tails s p) (hs : EndsExponent s) : EndsExponent p := by
  obtain ⟨u, d, e, g, rfl, hd, he, hg⟩ := hs
  have hends : EndsExponent [d, e, g] := ⟨[], d, e, g, rfl, hd, he, hg⟩
  have hchars : ∀ c ∈ ['.', 'e', 'E', '+', '-'], isNumeralChar c = true :=
    List.all_iff_forall_prop.1 (by decide)
  have hdigit : isNumeralChar d = true := by
    obtain hd | rfl := hd
    · exact Lexeme.isNumeralChar_of_isNameChar (Lexeme.isNameChar_of_isDigit d hd)
    · decide
  refine hends.of_suffix (h _ (List.suffix_append u _) ?_)
  obtain rfl | rfl := he <;> obtain rfl | rfl := hg <;> simpa using ⟨hdigit, by decide, by decide⟩

/-- **Seams of code.** -/
theorem alike_front (h : ScansAlike (normalizeLines s) (normalizeLines t)) (hF : Passes s F)
    (htails : Tails (normalizeLines F) p) (hp : p ≠ [] → Closes p) (hs : AtSeam s) (ht : AtSeam t)
    (hexponent : s.head?.any Char.isDigit = true ∨ t.head?.any Char.isDigit = true →
      ¬EndsExponent p) : ScansAlike (normalizeLines (F ++ s)) (normalizeLines (F ++ t)) := by
  -- a seam begins with no line feed, so lines are normalized on each side of it
  have hnormal {v : List Char} (hv : AtSeam v) :
      normalizeLines (F ++ v) = normalizeLines F ++ normalizeLines v ∧
        (normalizeLines v).head? = v.head? := by
    obtain ⟨c, hc, hseam⟩ := hv
    obtain ⟨v, rfl⟩ := List.head?_eq_some_iff.1 hc
    have hne {d : Char} (hd : isNameChar d = false) (hblank : ' ' ≠ d) : c ≠ d := by
      rintro rfl
      rw [hd] at hseam
      exact hseam.elim Bool.false_ne_true fun h => hblank h.symm
    rw [normalizeLines_append_of_head, Lexeme.normalizeLines_cons]
    · exact ⟨rfl, rfl⟩
    · exact hne (by decide) (by decide)
    · exact fun hhead => hne (by decide) (by decide) (Option.some.inj hhead)
  obtain ⟨hfront, hhead⟩ := hnormal hs
  obtain ⟨hfront', hhead'⟩ := hnormal ht
  rw [hfront, hfront']
  refine h.append hF.runs (htails.closes hp) ?_ ?_ ?_
  · rwa [AtSeam, hhead]
  · rwa [AtSeam, hhead']
  · rw [hhead, hhead']
    exact fun hdigit hends => hexponent hdigit (htails.endsExponent hends)

/-! ## Bindings in code -/

theorem endsBinding_of_isPrefix (h : EndsBinding r s) (ht : t <+: s) : EndsBinding r t := by
  intro c hc
  obtain ⟨t, rfl⟩ := List.head?_eq_some_iff.1 hc
  obtain ⟨u, rfl⟩ := ht
  exact h c rfl

theorem endsBinding_normalizeLines (h : EndsBinding r s) : EndsBinding r (normalizeLines s) := by
  intro c hc
  cases s with
  | nil => cases hc
  | cons d s =>
      by_cases hreturn : d = '\r'
      · subst hreturn
        obtain ⟨t, heq, -⟩ := exists_normalizeLines_return s
        rw [heq] at hc
        obtain rfl : '\n' = c := Option.some.inj hc
        exact ⟨by decide, fun _ => by decide⟩
      · rw [Lexeme.normalizeLines_cons hreturn] at hc
        exact h c hc

theorem endsBinding_blank (r s : List Char) : EndsBinding r (' ' :: s) := by
  intro c hc
  obtain rfl : ' ' = c := Option.some.inj hc
  exact ⟨by decide, fun _ => by decide⟩

theorem normalizeLines_binding (hr : IsBinding r) (s : List Char) :
    normalizeLines (r ++ s) = r ++ normalizeLines s := by
  have hreturn : '\r' ∉ r := fun hmem => by
    have hword := isWord_of_mem_binding hr _ hmem
    exact absurd hword (by decide)
  rw [Lexeme.normalizeLines_append, Lexeme.normalizeLines_of_not_mem hreturn]
  exact fun hlast => hreturn (List.mem_of_getLast? hlast)

theorem atSeam_binding (hr : IsBinding r) (s : List Char) : AtSeam (r ++ s) := by
  obtain ⟨c, v, rfl, hc, -⟩ := exists_cons_of_isBinding hr
  exact ⟨c, rfl, .inl (isNameChar_of_isWord c hc)⟩

theorem atSeam_blank (s : List Char) : AtSeam (' ' :: s) := ⟨' ', rfl, .inr rfl⟩

/-- A digit begins no binding but zero. -/
theorem OpensBinding.not_endsExponent (hr : IsBinding r) (h : OpensBinding r p)
    (hdigit : (r ++ s).head?.any Char.isDigit = true ∨
      (' ' :: t).head?.any Char.isDigit = true) : ¬EndsExponent p := by
  have hblank : ' '.isDigit = false := rfl
  have hdigit := hdigit.resolve_right (Bool.eq_false_iff.1 hblank)
  obtain rfl | ⟨hword, -⟩ := hr
  · exact h.2 rfl
  · cases r with
    | nil => cases hword
    | cons c v =>
        rw [Lexeme.isPlainWord, Bool.and_eq_true, Bool.and_eq_true, Bool.not_eq_true'] at hword
        exact absurd hdigit (by simpa using hword.1.2)

theorem normalizeLines_concat {c : Char} (hc : c ≠ '\n') (G : List Char) :
    normalizeLines (G ++ [c]) = normalizeLines G ++ normalizeLines [c] :=
  normalizeLines_append_of_head G fun hhead => hc (Option.some.inj hhead)

theorem getLast?_normalizeLines_line (G : List Char) :
    (normalizeLines (G ++ ['\n'])).getLast? = some '\n' := by
  cases G using List.reverseRecOn with
  | nil => rfl
  | append_singleton G c =>
      by_cases hreturn : c = '\r'
      · subst hreturn
        have htext : G ++ ['\r'] ++ ['\n'] = G ++ ['\r', '\n'] := by simp
        have hline : normalizeLines ['\r', '\n'] = ['\n'] := rfl
        rw [htext, normalizeLines_append_of_head G (by decide), hline, List.getLast?_concat]
      · have hline : normalizeLines ['\n'] = ['\n'] := rfl
        rw [Lexeme.normalizeLines_append (by simpa using hreturn), hline, List.getLast?_concat]

theorem Tails.normalizeLines_concat (h : Tails (normalizeLines G) p) (c : Char) :
    Tails (normalizeLines (G ++ [c])) (p ++ [c]) := by
  by_cases hline : c = '\n'
  · subst hline
    exact tails_of_getLast? (getLast?_normalizeLines_line G) (by decide) _
  rw [Shorthand.normalizeLines_concat hline]
  by_cases hreturn : c = '\r'
  · subst hreturn
    have hend : normalizeLines ['\r'] = ['\n'] := rfl
    rw [hend]
    exact tails_of_getLast? (List.getLast?_concat ..) (by decide) _
  · rw [Lexeme.normalizeLines_cons hreturn]
    exact h.concat c

theorem tails_append_of_getLast? {c : Char} (hs : s.getLast? = some c)
    (hc : c ∈ ['\'', '"', ':']) (G p : List Char) : Tails (normalizeLines (G ++ s)) p := by
  have hmarks : ∀ c ∈ ['\'', '"', ':'], isNumeralChar c = false ∧ c ≠ '\r' ∧ c ≠ '\n' :=
    List.all_iff_forall_prop.1 (by decide)
  obtain ⟨hnumeral, hreturn, hline⟩ := hmarks c hc
  have hlast : (G ++ s).getLast? = some c := by
    rw [List.getLast?_append, hs]
    rfl
  exact tails_of_getLast? (Lexeme.getLast?_normalizeLines hreturn hline hlast) hnumeral p

/-- A lambda is a front of code. -/
theorem passes_lambdaFront (hn : IsParameter n) (t : List Char) : Passes t (lambdaFront n) := by
  refine passes_of_forall (fun c hc => ?_) t
  unfold lambdaFront at hc
  rw [List.mem_append, List.mem_append] at hc
  have hlambda : ∀ c ∈ "lambda ".toList, c ∉ ['\'', '"', '#'] :=
    List.all_iff_forall_prop.1 (by decide)
  obtain (hc | hc) | hc := hc
  · exact hlambda c hc
  · -- Quotes and remarks are made of no word characters.
    intro hmark
    have hmarks : ∀ c ∈ ['\'', '"', '#'], isWord c = false :=
      List.all_iff_forall_prop.1 (by decide)
    have hword := hn.isWord c hc
    rw [hmarks c hmark] at hword
    cases hword
  · rw [List.mem_singleton.1 hc]
    decide

theorem getLast?_lambdaFront (n : List Char) : (lambdaFront n).getLast? = some ':' := by
  unfold lambdaFront
  exact List.getLast?_concat ..

theorem stripEnd_lambdaFront (n s : List Char) :
    stripEnd (lambdaFront n ++ s) = lambdaFront n ++ stripEnd s := by
  refine stripEnd_append_of_solid ?_ s
  rw [getLast?_lambdaFront]
  rintro c ⟨⟩
  decide

theorem getLast?_literal (quote : Char) (triple : Bool) (body : List Char) :
    (literal quote triple body).getLast? = some quote := by
  rw [literal, List.getLast?_append]
  cases triple <;> rfl

theorem head?_of_isPrefix {c : Char} (h : t <+: s) (hc : t.head? = some c) : s.head? = some c := by
  obtain ⟨t, rfl⟩ := List.head?_eq_some_iff.1 hc
  obtain ⟨u, rfl⟩ := h
  rfl

theorem head?_stripEnd_replaceArrows {c : Char} (hc : c ≠ 'l')
    (h : (stripEnd (replaceArrows s)).head? = some c) : s.head? = some c := by
  have hhead := head?_of_isPrefix (stripEnd_isPrefix _) h
  obtain heq | heq := head?_replaceArrows s
  · exact heq ▸ hhead
  · exact absurd (Option.some.inj (hhead.symm.trans heq)) hc

end Curly.Shorthand
