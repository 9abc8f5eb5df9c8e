import Curly.Proofs.Scope
import Curly.Proofs.Term.Front
import Curly.Term.Reader

/-!
Blanks around what stands for an index. Where every index stands apart from its neighbours, blanks
around it change nothing: the same arrows are replaced with the blanks and without them, and the
code is read as the same lexemes.
-/

namespace Curly.Shorthand

open Text Text.Unicode Form
open Lexeme (normalizeLines IsBinding EndsBinding ScansAlike AtSeam)

variable {quote : Char} {body n p q r s s' t t' : List Char}

/-! ## The same lexemes -/

/-- Whether two codes are read alike, once their arrows are replaced and the white space at their
ends is dropped, behind every front that ends as a text does. -/
def ReadAlike (p s s' : List Char) : Prop :=
  ∀ G, Passes (stripEnd (replaceArrows s)) G → Tails (normalizeLines G) p →
    ScansAlike (normalizeLines (G ++ stripEnd (replaceArrows s)))
      (normalizeLines (G ++ stripEnd (replaceArrows s')))

theorem ReadAlike.scansAlike (h : ReadAlike p s s') :
    ScansAlike (normalizeLines (stripEnd (replaceArrows s)))
      (normalizeLines (stripEnd (replaceArrows s'))) :=
  h [] .nil (.nil p)

theorem scansAlike_stripEnd_blank_iff :
    ScansAlike s (normalizeLines (stripEnd (' ' :: t))) ↔
      ScansAlike s (normalizeLines (stripEnd t)) := by
  rw [stripEnd_cons]
  split
  · rename_i hblank
    rw [hblank.1]
  · rw [Lexeme.normalizeLines_cons (by decide), Lexeme.scansAlike_blank_iff]

/-- A character that begins no arrow is copied. -/
theorem ReadAlike.copy {c : Char} (h : ReadAlike (p ++ [c]) s s') (hc : c ∉ ['\'', '"', '#'])
    (hnone : arrow? (c :: s) = none) (hnone' : arrow? (c :: s') = none)
    (hnil : stripEnd (replaceArrows s) = [] ↔ stripEnd (replaceArrows s') = []) :
    ReadAlike p (c :: s) (c :: s') := by
  intro G hG htails
  have hquote := ne_quote_of_not_mem hc
  rw [replaceArrows_copy hquote hnone, stripEnd_cons] at hG ⊢
  rw [replaceArrows_copy hquote hnone', stripEnd_cons]
  -- Either the character and all behind it are blank and cut off, or it stays.
  split at hG
  · rename_i hblank
    rw [if_pos hblank, if_pos ⟨hnil.1 hblank.1, hblank.2⟩]
    exact .refl _
  · rename_i hsolid
    have hsolid' := fun h => hsolid (And.imp_left hnil.2 h)
    have hrest := h (G ++ [c]) (hG.concat hc) (htails.normalizeLines_concat c)
    rw [List.append_assoc, List.append_assoc, List.singleton_append, List.singleton_append] at hrest
    rwa [if_neg hsolid, if_neg hsolid']

/-- A lambda stands for an arrow. -/
theorem ReadAlike.arrow (h : ReadAlike q t t') (hs : arrow? s = some (n, t))
    (hs' : arrow? s' = some (n, t')) (p : List Char) : ReadAlike p s s' := by
  intro G hG _
  obtain ⟨hn, -⟩ := exists_of_arrow? hs
  rw [(replaceArrows_hit hs).2, stripEnd_lambdaFront] at hG ⊢
  rw [(replaceArrows_hit hs').2, stripEnd_lambdaFront, ← List.append_assoc, ← List.append_assoc]
  exact h _ (hG.append (passes_lambdaFront hn _))
    (tails_append_of_getLast? (getLast?_lambdaFront n) (by decide) G q)

/-- A literal is copied. -/
theorem ReadAlike.literal {triple : Bool} (h : ReadAlike (p ++ literal quote triple body) s s')
    (hliteral : IsLiteral quote triple body) (hbody : IsPlain quote body)
    (hend : triple = false → body = [] → s.head? ≠ some quote) :
    ReadAlike p (literal quote triple body ++ s) (literal quote triple body ++ s') := by
  intro G hG _
  have hquote := hliteral.isQuote
  have hlast := getLast?_literal quote triple body
  -- a literal ends with its quote, so what is trimmed stands behind it
  have hsolid : ∀ c ∈ (Shorthand.literal quote triple body).getLast?, isSpace c = false := by
    rw [hlast]
    rintro c ⟨⟩
    exact isSpace_of_quote hquote
  have hbehind : triple = false → body = [] →
      ([] ++ stripEnd (replaceArrows s)).head? ≠ some quote := fun htriple hnil hhead =>
    hend htriple hnil
      (head?_stripEnd_replaceArrows (Lexeme.ne_of_quote hquote (by decide)).symm hhead)
  have hmark : quote ∈ ['\'', '"', ':'] := by
    obtain rfl | rfl := hquote <;> decide
  have hcopy (v : List Char) :
      stripEnd (replaceArrows (Shorthand.literal quote triple body ++ v)) =
        Shorthand.literal quote triple body ++ stripEnd (replaceArrows v) := by
    rw [replaceArrows_eq, substitute_literal hliteral hbody, stripEnd_append_of_solid hsolid]
    rfl
  rw [hcopy] at hG ⊢
  rw [hcopy, ← List.append_assoc, ← List.append_assoc]
  have hfront := Passes.literal hliteral hbehind .nil
  rw [List.append_nil] at hfront
  exact h _ (hG.append hfront) (tails_append_of_getLast? hlast hmark G _)

/-- A binding is a lexeme of its own. -/
theorem ReadAlike.binding (hr : IsBinding r) (hopens : OpensBinding r p)
    (hend : EndsBinding r (replaceArrows s)) (h : ReadAlike q s s')
    (hnone : arrow? (r ++ s) = none) (hnone' : arrow? (r ++ ' ' :: s') = none) :
    ReadAlike p (r ++ s) (' ' :: (r ++ ' ' :: s')) := by
  intro G hG htails
  have hword := head?_any_isWord_of_endsBinding hend
  have hsolid : ∀ c ∈ r.getLast?, isSpace c = false := fun c hc =>
    isSpace_of_isWord (isWord_of_mem_binding hr c (List.mem_of_getLast? hc))
  -- the word is no parameter of an arrow here, so it is copied, with or without blanks around it
  have hcopy : stripEnd (replaceArrows (r ++ s)) = r ++ stripEnd (replaceArrows s) := by
    rw [replaceArrows_binding hr hword hnone, stripEnd_append_of_solid hsolid]
  have hcopy' : stripEnd (replaceArrows (' ' :: (r ++ ' ' :: s'))) =
      ' ' :: (r ++ stripEnd (' ' :: replaceArrows s')) := by
    obtain ⟨c, v, rfl, -⟩ := exists_cons_of_isBinding hr
    rw [replaceArrows_space (by decide),
      replaceArrows_binding hr (head?_any_isWord_blank s') hnone', replaceArrows_space (by decide),
      stripEnd_cons, stripEnd_append_of_solid hsolid, if_neg (by simp)]
  have hrest := scansAlike_stripEnd_blank_iff.2 (h.scansAlike)
  have hends := endsBinding_of_isPrefix hend (stripEnd_isPrefix (replaceArrows s))
  have hends' := endsBinding_of_isPrefix (endsBinding_blank r (replaceArrows s'))
    (stripEnd_isPrefix _)
  have hseam := ScansAlike.binding hr hrest (endsBinding_normalizeLines hends)
    (endsBinding_normalizeLines hends')
  rw [hcopy] at hG ⊢
  rw [hcopy']
  refine alike_front ?_ hG htails hopens.1 (atSeam_binding hr _) (atSeam_blank _)
    (hopens.not_endsExponent hr)
  rw [Lexeme.normalizeLines_cons (by decide), normalizeLines_binding hr, normalizeLines_binding hr]
  exact Lexeme.scansAlike_blank_iff.2 hseam

/-- A binding that is the parameter of an arrow goes with it. -/
theorem ReadAlike.parameter (hopens : OpensBinding r p) (h : ReadAlike q t t')
    (hs : arrow? (r ++ s) = some (n, t)) (hs' : arrow? (r ++ ' ' :: s') = some (n, t')) :
    ReadAlike p (r ++ s) (' ' :: (r ++ ' ' :: s')) := by
  intro G hG htails
  have hrest := (h.arrow hs hs' q).scansAlike
  obtain ⟨u, hu⟩ : ∃ u, stripEnd (replaceArrows (r ++ s)) = 'l' :: u := by
    rw [(replaceArrows_hit hs).2, stripEnd_lambdaFront]
    exact ⟨_, rfl⟩
  -- of the code with blanks only the one in front of the arrow is left
  have hcopy : stripEnd (replaceArrows (' ' :: (r ++ ' ' :: s'))) =
      ' ' :: stripEnd (replaceArrows (r ++ ' ' :: s')) := by
    rw [replaceArrows_space (by decide), stripEnd_cons, if_neg]
    rintro ⟨hnil, -⟩
    rw [(replaceArrows_hit hs').2, stripEnd_lambdaFront] at hnil
    cases hnil
  have hseam : AtSeam (stripEnd (replaceArrows (r ++ s))) :=
    ⟨'l', by rw [hu]; rfl, .inl (by decide)⟩
  rw [hcopy]
  refine alike_front ?_ hG htails hopens.1 hseam (atSeam_blank _) ?_
  · rw [Lexeme.normalizeLines_cons (by decide)]
    exact Lexeme.scansAlike_blank_iff.2 hrest
  · rw [hu]
    rintro (hdigit | hdigit)
    · cases hdigit
    · cases hdigit

/-- **Blanks around bindings** change nothing about how code is read once its arrows are replaced:
neither which arrows there are nor which lexemes. -/
theorem Padded.readAlike (hr : IsBinding r) (h : Padded r p s s') : ReadAlike p s s' := by
  induction hn : s.length using Nat.strong_induction_on generalizing p s s' with
  | _ n ih =>
    subst hn
    cases h with
    | nil => exact fun _ _ _ => .refl _
    | @char _ s s' c hc hs =>
        -- arrows are found at the same places, and the induction goes on behind what has been read
        have hrel := hs.arrow? hr
        generalize hfound : Shorthand.arrow? (c :: s) = found at hrel
        generalize hfound' : Shorthand.arrow? (c :: s') = found' at hrel
        cases hrel with
        | none =>
            exact (ih _ (Nat.lt_succ_self _) hs rfl).copy hc hfound hfound'
              (hs.stripEnd_eq_nil_iff hr)
        | @some a b hab =>
            obtain ⟨n, t⟩ := a
            obtain ⟨n', t'⟩ := b
            obtain ⟨rfl, q, hq⟩ := hab
            exact (ih _ (replaceArrows_hit hfound).1 hq rfl).arrow hfound hfound' p
    | @literal _ body s s' quote triple hliteral hbody hend hs =>
        refine ReadAlike.literal (ih _ ?_ hs rfl) hliteral hbody hend
        obtain ⟨u, hu⟩ := literal_cons quote triple body []
        rw [List.append_nil] at hu
        rw [hu, List.length_append, List.length_cons]
        omega
    | @binding _ s s' hopens hend hs =>
        have hrel := hs.arrow?_binding hr hend
        generalize hfound : Shorthand.arrow? (r ++ s) = found at hrel
        generalize hfound' : Shorthand.arrow? (r ++ ' ' :: s') = found' at hrel
        cases hrel with
        | none =>
            refine ReadAlike.binding hr hopens hend (ih _ ?_ hs rfl) hfound hfound'
            obtain ⟨c, v, rfl, -⟩ := exists_cons_of_isBinding hr
            rw [List.length_append, List.length_cons]
            omega
        | @some a b hab =>
            obtain ⟨n, t⟩ := a
            obtain ⟨n', t'⟩ := b
            obtain ⟨rfl, q, hq⟩ := hab
            exact ReadAlike.parameter hopens (ih _ (replaceArrows_hit hfound).1 hq rfl) hfound
              hfound'

/-! ## Texts whose indices stand apart -/

/-- A text with a blank on either side of every index. -/
def spaced (text : List Char) : List Char := replaceIndex " @index ".toList text

/-- Whether every index of a text, behind some other one, stands apart: neither in front of what
stands for it nor behind is anything that would go on with it. Literals are such as the
substitutions know, and there is no remark. -/
inductive StandsApart (r : List Char) : List Char → List Char → Prop
  | nil {p : List Char} : StandsApart r p []
  | char {p s : List Char} {c : Char} (hc : c ∉ ['\'', '"', '#'])
      (hindex : startsWithWord "@index".toList (c :: s) = false)
      (hs : StandsApart r (p ++ [c]) s) : StandsApart r p (c :: s)
  | literal {p body s : List Char} {quote : Char} {triple : Bool}
      (h : IsLiteral quote triple body) (hbody : IsPlain quote body)
      (hend : triple = false → body = [] → s.head? ≠ some quote)
      (hs : StandsApart r (p ++ literal quote triple body) s) :
      StandsApart r p (literal quote triple body ++ s)
  | index {p s : List Char} (hword : atWordEnd s = true) (hp : OpensBinding r p)
      (hend : EndsBinding r (replaceArrows (replaceIndex r s)))
      (hs : StandsApart r (p ++ "@index".toList) s) : StandsApart r p ("@index".toList ++ s)

theorem replaceIndex_index (hs : atWordEnd s = true) (r : List Char) :
    replaceIndex r ("@index".toList ++ s) = r ++ replaceIndex r s := by
  have hfound := replaceIndex_found InStep.nil hs r
  rw [replaceIndex_eq r [], substitute_nil, List.nil_append, List.nil_append] at hfound
  exact hfound

theorem replaceIndex_char {c : Char} (hc : c ≠ '\'' ∧ c ≠ '"')
    (hindex : startsWithWord "@index".toList (c :: s) = false) (r : List Char) :
    replaceIndex r (c :: s) = c :: replaceIndex r s :=
  substitute_cons (stringLiteral?_of_ne hc s) (if_neg (Bool.eq_false_iff.1 hindex))

theorem replaceIndex_literal {triple : Bool} (h : IsLiteral quote triple body)
    (hbody : IsPlain quote body) (r s : List Char) :
    replaceIndex r (literal quote triple body ++ s) =
      literal quote triple body ++ replaceIndex r s :=
  substitute_literal h hbody s

/-- What may be behind a text in which a word is looked for. -/
def EndsWord (s : List Char) : Prop :=
  ∀ c ∈ s.head?, isWord c = false ∧ c ∉ "@index".toList.tail

theorem endsWord_cons {c : Char} (hc : c ∈ ['@', ' ', '\'', '"']) (s : List Char) :
    EndsWord (c :: s) := by
  have hmarks : ∀ c ∈ ['@', ' ', '\'', '"'], isWord c = false ∧ c ∉ "@index".toList.tail :=
    List.all_iff_forall_prop.1 (by decide)
  rintro d ⟨⟩
  exact hmarks c hc

/-- Blanks come only behind what an index is looked for in. -/
theorem StandsApart.exists_append (h : StandsApart r p s) :
    ∃ u t t', s = u ++ t ∧ spaced s = u ++ t' ∧ EndsWord t ∧ EndsWord t' := by
  induction h with
  -- the part that is copied in both ends at the first literal or index
  | nil => exact ⟨[], [], [], rfl, substitute_nil, nofun, nofun⟩
  | @char p s c hc hindex hs ih =>
      obtain ⟨u, t, t', hsplit, hspaced, ht, ht'⟩ := ih
      refine ⟨c :: u, t, t', by rw [hsplit]; rfl, ?_, ht, ht'⟩
      rw [spaced, replaceIndex_char (ne_quote_of_not_mem hc) hindex, ← spaced, hspaced]
      rfl
  | @literal p body s quote triple hliteral hbody =>
      obtain ⟨u, hu⟩ := literal_cons quote triple body s
      obtain ⟨u', hu'⟩ := literal_cons quote triple body (spaced s)
      have hquote : quote ∈ ['@', ' ', '\'', '"'] := by
        obtain rfl | rfl := hliteral.isQuote <;> decide
      have hs := endsWord_cons hquote u
      have hs' := endsWord_cons hquote u'
      rw [← hu] at hs
      rw [← hu'] at hs'
      exact ⟨[], _, _, rfl, replaceIndex_literal hliteral hbody _ s, hs, hs'⟩
  | index hword =>
      exact ⟨[], _, _, rfl, replaceIndex_index hword _, endsWord_cons (by decide) _,
        endsWord_cons (by decide) _⟩

/-- The blanks neither make an index nor take one away. -/
theorem StandsApart.startsWithWord (h : StandsApart r p s) (c : Char) :
    startsWithWord "@index".toList (c :: spaced s) = startsWithWord "@index".toList (c :: s) := by
  obtain ⟨u, t, t', rfl, hspaced, ht, ht'⟩ := h.exists_append
  rw [hspaced, ← List.cons_append, ← List.cons_append,
    startsWithWord_append (List.cons_ne_nil c u) ht,
    startsWithWord_append (List.cons_ne_nil c u) ht']

theorem StandsApart.head?_replaceIndex (hr : IsBinding r) (hquote : quote = '\'' ∨ quote = '"')
    (h : StandsApart r p s) (hs : s.head? ≠ some quote) :
    (replaceIndex r s).head? ≠ some quote := by
  cases h with
  | nil =>
      rw [replaceIndex_eq, substitute_nil]
      exact nofun
  | char hc hindex =>
      rw [replaceIndex_char (ne_quote_of_not_mem hc) hindex]
      exact hs
  | @literal _ body s quote' triple hliteral hbody =>
      obtain ⟨u, hu⟩ := literal_cons quote' triple body s
      obtain ⟨u', hu'⟩ := literal_cons quote' triple body (replaceIndex r s)
      rw [hu] at hs
      rw [replaceIndex_literal hliteral hbody, hu']
      exact hs
  | index hword =>
      -- in the place of an index stands a word, which begins with no quote
      obtain ⟨c, v, rfl, hc, -⟩ := exists_cons_of_isBinding hr
      rw [replaceIndex_index hword]
      intro hhead
      obtain rfl : c = quote := Option.some.inj hhead
      rw [isWord_of_quote hquote] at hc
      cases hc

/-- What stands for the indices of a text differs in blanks around it. -/
theorem StandsApart.padded (hr : IsBinding r) (h : StandsApart r p s) :
    Padded r p (replaceIndex r s) (replaceIndex r (spaced s)) := by
  induction h with
  | nil =>
      have hnil (w : List Char) : replaceIndex w [] = [] := substitute_nil
      rw [spaced, hnil " @index ".toList, hnil]
      exact .nil
  | @char p s c hc hindex hs ih =>
      have hquote := ne_quote_of_not_mem hc
      rw [replaceIndex_char hquote hindex, spaced, replaceIndex_char hquote hindex, ← spaced,
        replaceIndex_char hquote (by rw [hs.startsWithWord, hindex])]
      exact .char hc ih
  | literal hliteral hbody hend hs ih =>
      rw [replaceIndex_literal hliteral hbody, spaced, replaceIndex_literal hliteral hbody,
        ← spaced, replaceIndex_literal hliteral hbody]
      exact .literal hliteral hbody (fun htriple hnil =>
        hs.head?_replaceIndex hr hliteral.isQuote (hend htriple hnil)) ih
  | @index p s hword hp hend hs ih =>
      -- the blanks around the index are copied, and the index between them is still a word
      have htext : " @index ".toList ++ spaced s = ' ' :: ("@index".toList ++ ' ' :: spaced s) := by
        rfl
      have hblank (t : List Char) : replaceIndex r (' ' :: t) = ' ' :: replaceIndex r t :=
        replaceIndex_char (by decide) rfl r
      rw [replaceIndex_index hword, spaced, replaceIndex_index hword, ← spaced, htext, hblank,
        replaceIndex_index, hblank]
      · exact .binding hp hend ih
      · rw [atWordEnd, isWord_of_isSpace (by decide)]
        rfl

/-! ## Trimmed code -/

theorem stripStart_replaceArrows (s : List Char) :
    stripStart (replaceArrows s) = replaceArrows (stripStart s) := by
  induction s with
  | nil =>
      have hnil : replaceArrows [] = [] := substitute_nil
      rw [stripStart, stripStart, hnil]
      exact hnil.symm
  | cons c s ih =>
      cases hc : isSpace c with
      | true =>
          rw [replaceArrows_space hc, stripStart, List.dropWhile_cons_of_pos hc, ← stripStart, ih,
            stripStart, stripStart, List.dropWhile_cons_of_pos hc]
      | false =>
          have hsolid : stripStart (c :: s) = c :: s :=
            stripStart_eq_self_iff.2 fun d hd => Option.some.inj hd ▸ hc
          rw [hsolid, stripStart_eq_self_iff]
          intro d hd
          -- what stands in front now is what stood there, or the first letter of a lambda
          obtain hhead | hhead := head?_replaceArrows (c :: s)
          · obtain rfl : c = d := Option.some.inj (hhead.symm.trans hd)
            exact hc
          · obtain rfl : 'l' = d := Option.some.inj (hhead.symm.trans hd)
            decide

/-- Without the white space in front two such codes still differ in blanks. -/
theorem Padded.exists_stripStart (hr : IsBinding r) (h : Padded r p s s') :
    ∃ q u, Padded r q (stripStart s) u ∧ (u = stripStart s' ∨ u = ' ' :: stripStart s') ∧
      (stripStart s).head? ≠ some '#' ∧ (stripStart s').head? ≠ some '#' := by
  have hself {c : Char} {v : List Char} (hc : isSpace c = false) : stripStart (c :: v) = c :: v :=
    stripStart_eq_self_iff.2 fun d hd => Option.some.inj hd ▸ hc
  induction h with
  | nil => exact ⟨[], [], .nil, .inl rfl, nofun, nofun⟩
  | @char p s s' c hc hs ih =>
      cases hspace : isSpace c with
      | true =>
          rw [stripStart, stripStart, List.dropWhile_cons_of_pos hspace,
            List.dropWhile_cons_of_pos hspace]
          exact ih
      | false =>
          have hhash : ∀ v : List Char, (c :: v).head? ≠ some '#' := by
            intro v hhead
            obtain rfl : c = '#' := Option.some.inj hhead
            exact hc (by decide)
          rw [hself hspace, hself hspace]
          exact ⟨p, _, .char hc hs, .inl rfl, hhash s, hhash s'⟩
  | @literal p body s s' quote triple hliteral hbody hend hs =>
      have hpadded := Padded.literal hliteral hbody hend hs
      obtain ⟨v, hv⟩ := literal_cons quote triple body s
      obtain ⟨v', hv'⟩ := literal_cons quote triple body s'
      have hspace := isSpace_of_quote hliteral.isQuote
      have hhash : ∀ v : List Char, (quote :: v).head? ≠ some '#' := fun v hhead =>
        Lexeme.ne_of_quote hliteral.isQuote (by decide) (Option.some.inj hhead).symm
      rw [hv, hv'] at hpadded ⊢
      rw [hself hspace, hself hspace]
      exact ⟨p, _, hpadded, .inl rfl, hhash v, hhash v'⟩
  | @binding p s s' hopens hend hs =>
      have hpadded := Padded.binding hopens hend hs
      obtain ⟨c, v, rfl, hword, hspace, -⟩ := exists_cons_of_isBinding hr
      have hhash : ∀ v : List Char, (c :: v).head? ≠ some '#' := by
        intro v hhead
        obtain rfl : c = '#' := Option.some.inj hhead
        exact absurd hword (by decide)
      -- the blank in front of the binding is trimmed only in the code that has it
      have hblank : stripStart (' ' :: (c :: v ++ ' ' :: s')) = c :: (v ++ ' ' :: s') := by
        rw [stripStart, List.dropWhile_cons_of_pos (by decide), ← stripStart]
        exact hself hspace
      rw [hblank]
      refine ⟨p, _, ?_, .inr rfl, ?_, hhash _⟩
      · rw [List.cons_append, hself hspace]
        exact hpadded
      · rw [List.cons_append, hself hspace]
        exact hhash _

/-- Code that begins with neither white space nor a remark is read as a whole. -/
theorem ofText_eq_scan_of_head? (hs : ∀ c ∈ s.head?, isSpace c = false ∧ c ≠ '#') :
    Lexeme.ofText s = Lexeme.scan [] (normalizeLines s) := by
  cases s with
  | nil => rw [normalizeLines, Lexeme.scan_nil]; rfl
  | cons c s =>
      obtain ⟨hspace, hhash⟩ := hs c rfl
      have hne {d : Char} (hd : isSpace d = true) : c ≠ d := by
        rintro rfl
        rw [hd] at hspace
        cases hspace
      refine Lexeme.ofText_cons ?_ ?_ s
      · simp [Lexeme.isBlank, hne (d := ' ') (by decide), hne (d := '\t') (by decide),
          hne (d := '\x0c') (by decide)]
      · simp [hhash, hne (d := '\n') (by decide), hne (d := '\r') (by decide)]

theorem ofText_strip_replaceArrows (hs : (stripStart s).head? ≠ some '#') :
    Lexeme.ofText (strip (replaceArrows s)) =
      Lexeme.scan [] (normalizeLines (stripEnd (replaceArrows (stripStart s)))) := by
  have hcode : strip (replaceArrows s) = stripEnd (replaceArrows (stripStart s)) := by
    rw [strip, stripStart_replaceArrows]
  rw [hcode, ofText_eq_scan_of_head?]
  intro c hc
  constructor
  · have hhead := head?_of_isPrefix (stripEnd_isPrefix _) hc
    rw [← stripStart_replaceArrows] at hhead
    exact stripStart_eq_self_iff.1 (List.dropWhile_idempotent isSpace (replaceArrows s)) c hhead
  · rintro rfl
    exact hs (head?_stripEnd_replaceArrows (by decide) hc)

/-- Blanks around bindings change no lexeme of trimmed code. -/
theorem ofText_replaceArrows (hr : IsBinding r) (h : Padded r p s s') :
    Lexeme.ofText (strip (replaceArrows s)) = Lexeme.ofText (strip (replaceArrows s')) := by
  obtain ⟨q, u, hu, hblank, hs, hs'⟩ := h.exists_stripStart hr
  have halike := (hu.readAlike hr).scansAlike
  rw [ofText_strip_replaceArrows hs, ofText_strip_replaceArrows hs']
  obtain rfl | rfl := hblank
  · exact halike.scan []
  · rw [replaceArrows_space (by decide), scansAlike_stripEnd_blank_iff] at halike
    exact halike.scan []

end Curly.Shorthand

namespace Curly.Term

open Shorthand Text

/-- What an index stands for is a binding, in every loop and outside of all. -/
theorem isBinding_indexCode {scope : Scope} (hscope : ∀ l ∈ scope, ∃ n, l = .numbered loopLead n) :
    Lexeme.IsBinding (indexCode scope) := by
  cases scope with
  | nil => exact .inl rfl
  | cons l scope =>
      obtain ⟨n, rfl⟩ := hscope l List.mem_cons_self
      have hindex : (LoopNames.numbered loopLead n).index.toList =
          "_index_".toList ++ Nat.toDigits 10 n := by
        simp [LoopNames.numbered, loopLead, toString]
      refine .inr ?_
      rw [indexCode, hindex]
      refine ⟨?_, rfl⟩
      have hdigits : ∀ c ∈ Nat.toDigits 10 n, Lexeme.isPlainChar c = true := fun c hc => by
        have hdigit := Nat.isDigit_of_mem_toDigits (by decide) (by decide) hc
        rw [Lexeme.isPlainChar, Char.isAlphanum, hdigit, Bool.or_true, Bool.true_or]
      show Lexeme.isPlainWord ('_' :: ("index_".toList ++ Nat.toDigits 10 n)) = true
      rw [Lexeme.isPlainWord, List.all_append, List.all_eq_true.2 hdigits]
      rfl

/-- A free-form expression is read by the lexemes of its code alone. -/
theorem code_readComplex_of_lexemes {scope : Scope} {text text' : List Char}
    (h : Lexeme.ofText (strip (replaceArrows (replaceIndex (indexCode scope) text))) =
      Lexeme.ofText (strip (replaceArrows (replaceIndex (indexCode scope) text')))) :
    (readComplex scope text).toOption.map code = (readComplex scope text').toOption.map code := by
  have hexpr : Expr.ofText? (strip (replaceArrows (replaceIndex (indexCode scope) text))) =
      Expr.ofText? (strip (replaceArrows (replaceIndex (indexCode scope) text'))) := by
    rw [Expr.ofText?, Expr.ofText?, h]
  have hlong : hasLongInteger (strip (replaceArrows (replaceIndex (indexCode scope) text))) =
      hasLongInteger (strip (replaceArrows (replaceIndex (indexCode scope) text'))) := by
    rw [hasLongInteger, hasLongInteger, h]
  simp only [readComplex, hexpr, hlong]
  split
  · rfl
  · split
    · rfl
    · rfl

/-- **An index is an operand of its own.** With blanks around every index a free-form expression is
read as the same code, or not read in both cases, inside of every loop and outside of all: what
stands for the index is one lexeme, whatever is around it. Every index has to stand apart, though,
since only a word that goes on behind it is looked for. -/
theorem readComplex_spaced {scope : Scope} {text : List Char}
    (hscope : ∀ l ∈ scope, ∃ n, l = .numbered loopLead n)
    (htext : StandsApart (indexCode scope) [] text) :
    (readComplex scope (spaced text)).toOption.map code =
      (readComplex scope text).toOption.map code := by
  have hr := isBinding_indexCode hscope
  exact (code_readComplex_of_lexemes (ofText_replaceArrows hr (htext.padded hr))).symm

theorem readComplex_spaced_sum :
    StandsApart (indexCode [.numbered loopLead 1]) [] "1 + @index".toList ∧
      (readComplex [.numbered loopLead 1] (spaced "1 + @index".toList)).toOption.map code =
        (readComplex [.numbered loopLead 1] "1 + @index".toList).toOption.map code := by
  have hend : Lexeme.EndsBinding (indexCode [.numbered loopLead 1]) (replaceArrows (replaceIndex
      (indexCode [.numbered loopLead 1]) [])) := by
    have hnil (r : List Char) : replaceIndex r [] = [] := substitute_nil
    have harrows : replaceArrows [] = [] := substitute_nil
    rw [hnil, harrows]
    exact nofun
  have hopens : OpensBinding (indexCode [.numbered loopLead 1]) "1 + ".toList :=
    ⟨fun _ => ⟨' ', rfl, by decide⟩, fun hzero => absurd hzero (by decide)⟩
  have htext : StandsApart (indexCode [.numbered loopLead 1]) [] "1 + @index".toList :=
    .char (by decide) rfl (.char (by decide) rfl (.char (by decide) rfl (.char (by decide) rfl
      (.index (s := []) rfl hopens hend .nil))))
  exact ⟨htext, readComplex_spaced (fun l hl => ⟨1, List.mem_singleton.1 hl⟩) htext⟩

/-- Behind a digit the index of no loop is a digit of a longer number; with blanks around it is a
number of its own, and nothing is read. -/
example : replaceIndex (indexCode []) "1@index".toList = "10".toList ∧
    (readComplex [] "1@index".toList).toOption.isSome = true ∧
    (readComplex [] (spaced "1@index".toList)).toOption.isSome = false := by
  decide +kernel

end Curly.Term
