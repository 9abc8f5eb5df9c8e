import Curly.Proofs.Expr.Lexer

/-!
Rows of strings in code. A string is read alike whatever stands behind it, unless this is another
quote, and so is a row of strings, with blanks and continued lines between them. A text of strings
is such a row, or a row with a remark behind it that the end of the text leaves open: then whatever
is put behind the text belongs to the remark, up to the end of its line.
-/

namespace Curly.Lexeme

variable {quote : Char} {stack : List String} {s t rest tail : List Char} {l : Literal}
  {ls : List Literal}

/-! ## Single strings -/

/-- Where a string is the next lexeme: its prefix, and a text from its quote on. -/
structure BeginsString (p : List Char) (quote : Char) : Prop where
  isQuote : quote = '\'' ∨ quote = '"'
  chars : ∀ c ∈ p, isNameChar c = true
  notDigit : ∀ c ∈ p.head?, c.isDigit = false

/-- A string is read with its prefix. -/
theorem BeginsString.next? {p : List Char} (h : BeginsString p quote)
    (hs : string? p (quote :: s) = some (l, rest)) :
    next? (p ++ quote :: s) = some (.string l, rest) := by
  by_cases hp : p = []
  · rw [hp, List.nil_append, next?_quote h.isQuote, ← hp, hs, Option.map_some]
  -- the prefix ends at the quote, and it is one since the string is read with it
  have hquote : isNameChar quote = false ∧ (quote == '\'' || quote == '"') = true := by
    obtain rfl | rfl := h.isQuote
    · decide
    · decide
  have hprefix : (stringPrefix? p).isSome = true := by
    rw [string?_cons] at hs
    obtain ⟨r, -, hs⟩ := Option.bind_eq_some_iff.1 hs
    obtain ⟨l', hl, -⟩ := Option.map_eq_some_iff.1 hs
    rw [literalOf?] at hl
    obtain ⟨kind, hkind, -⟩ := Option.bind_eq_some_iff.1 hl
    rw [hkind]
    rfl
  have hend : (quote :: s).head?.any isNameChar = false := hquote.1
  rw [next?_append hp h.notDigit h.chars hend, ofSpan?, List.head?_cons, Option.any_some,
    hquote.2, hprefix, Bool.and_self, if_pos rfl, hs, Option.map_some]

/-- A string that is the next lexeme begins so. -/
theorem exists_of_next?_string (h : next? s = some (.string l, rest)) :
    ∃ p quote t, s = p ++ quote :: t ∧ BeginsString p quote ∧
      string? p (quote :: t) = some (l, rest) := by
  cases s with
  | nil => cases h
  | cons c s =>
      by_cases hnumber : (c.isDigit || (c == '.' && s.head?.any Char.isDigit)) = true
      · rw [next?_number hnumber] at h
        obtain ⟨r, -, heq⟩ := Option.map_eq_some_iff.1 h
        cases heq
      by_cases hquote : c = '\'' ∨ c = '"'
      · rw [next?_quote hquote] at h
        obtain ⟨r, hr, heq⟩ := Option.map_eq_some_iff.1 h
        cases heq
        exact ⟨[], c, s, rfl, ⟨hquote, by simp, by simp⟩, hr⟩
      cases hc : isNameChar c with
      | false =>
          rw [next?_mark hnumber (not_or.1 hquote) hc] at h
          obtain ⟨r, -, heq⟩ := Option.map_eq_some_iff.1 h
          cases heq
      | true =>
          have hdigit : c.isDigit = false :=
            Bool.eq_false_iff.2 fun hdigit => hnumber (by rw [hdigit, Bool.true_or])
          have hword : ∀ d ∈ (c :: s).takeWhile isNameChar, isNameChar d = true :=
            fun d hd => List.mem_takeWhile_imp hd
          have hfirst : ∀ d ∈ ((c :: s).takeWhile isNameChar).head?, d.isDigit = false := by
            rw [List.takeWhile_cons_of_pos hc]
            rintro d ⟨⟩
            exact hdigit
          rw [next?_name hdigit hc, ofSpan?] at h
          split at h
          · -- a word that a quote follows: the prefix of the string
            rename_i hquoted
            rw [Bool.and_eq_true, Option.any_eq_true] at hquoted
            obtain ⟨⟨quote, hhead, hquote⟩, -⟩ := hquoted
            obtain ⟨t, ht⟩ := List.head?_eq_some_iff.1 hhead
            rw [Bool.or_eq_true, beq_iff_eq, beq_iff_eq] at hquote
            rw [ht] at h
            obtain ⟨r, hr, heq⟩ := Option.map_eq_some_iff.1 h
            cases heq
            refine ⟨_, quote, t, ?_, ⟨hquote, hword, hfirst⟩, hr⟩
            rw [← ht, List.takeWhile_append_dropWhile]
          · obtain ⟨k, hk, heq⟩ := Option.map_eq_some_iff.1 h
            obtain ⟨rfl, -⟩ := Prod.mk.inj heq
            exact absurd hk (ofName?_ne_string _ _)

/-- What is behind a string changes nothing about it, unless it is another quote. -/
theorem next?_string_append (h : next? s = some (.string l, rest))
    (ht : rest = [] → ∀ c ∈ t.head?, c ≠ '\'' ∧ c ≠ '"') :
    next? (s ++ t) = some (.string l, rest ++ t) := by
  obtain ⟨p, quote, s, rfl, hbegins, hs⟩ := exists_of_next?_string h
  have happend := string?_append_rest hs fun hrest c hc =>
    ne_of_quote hbegins.isQuote (ht hrest c hc)
  rw [List.append_assoc, List.cons_append]
  exact hbegins.next? happend

theorem exists_append_of_next?_string (h : next? s = some (.string l, rest)) :
    ∃ c w, s = c :: (w ++ rest) ∧ BeginsLexeme c := by
  obtain ⟨p, quote, s, rfl, hbegins, hs⟩ := exists_of_next?_string h
  obtain ⟨w, rfl⟩ := exists_append_of_string? hs
  cases p with
  | nil => exact ⟨quote, w, rfl, beginsLexeme_of_quote hbegins.isQuote⟩
  | cons c p =>
      exact ⟨c, p ++ quote :: w, by simp,
        beginsLexeme_of_isNameChar (hbegins.chars c List.mem_cons_self)⟩

/-- A string is one lexeme, in brackets or not. -/
theorem scan_string (h : next? s = some (.string l, rest)) :
    scan stack s = (scan stack rest).map (.string l :: ·) := by
  obtain ⟨c, w, rfl, hc⟩ := exists_append_of_next?_string h
  refine scan_next hc h ?_ rfl
  simp only [List.length_cons, List.length_append]
  omega

/-! ## Between strings -/

/-- What may stand between strings: blanks, and line ends behind backslashes. -/
inductive IsGap : List Char → Prop
  | nil : IsGap []
  | blank {c : Char} {s : List Char} (hc : isBlank c = true) (hs : IsGap s) : IsGap (c :: s)
  | continued {s : List Char} (hs : IsGap s) : IsGap ('\\' :: '\n' :: s)

theorem scan_of_isBlank {c : Char} (hc : isBlank c = true) (s : List Char) :
    scan stack (c :: s) = scan stack s := by
  rw [Lexeme.scan.eq_def]
  exact if_pos hc

theorem scan_continued (hs : s ≠ []) : scan stack ('\\' :: '\n' :: s) = scan stack s := by
  rw [Lexeme.scan.eq_def]
  simp [isBlank, hs]

theorem IsGap.scan {gap : List Char} (h : IsGap gap) (hs : s ≠ []) :
    scan stack (gap ++ s) = scan stack s := by
  induction h with
  | nil => rfl
  | blank hc _ ih => exact (scan_of_isBlank hc _).trans ih
  | continued _ ih => exact (scan_continued (List.append_ne_nil_of_right_ne_nil _ hs)).trans ih

/-- What is passed over in brackets: gaps, line ends, and remarks with the ends of their lines. -/
inductive IsIdle : List Char → Prop
  | nil : IsIdle []
  | blank {c : Char} {s : List Char} (hc : isBlank c = true) (hs : IsIdle s) : IsIdle (c :: s)
  | continued {s : List Char} (hs : IsIdle s) : IsIdle ('\\' :: '\n' :: s)
  | line {s : List Char} (hs : IsIdle s) : IsIdle ('\n' :: s)
  | remark {w s : List Char} (hw : '\n' ∉ w) (hs : IsIdle s) : IsIdle ('#' :: (w ++ '\n' :: s))

theorem dropWhile_line {w : List Char} (hw : '\n' ∉ w) (s : List Char) :
    (w ++ s).dropWhile (· != '\n') = s.dropWhile (· != '\n') := by
  refine List.dropWhile_append_of_pos fun c hc => ?_
  rw [bne_iff_ne]
  rintro rfl
  exact hw hc

theorem scan_line (hstack : stack ≠ []) (s : List Char) :
    scan stack ('\n' :: s) = scan stack s := by
  rw [Lexeme.scan.eq_def]
  simp [isBlank, hstack]

/-- Outside of brackets a line end is the end, unless there is another line that is not idle. -/
theorem scan_nil_line (s : List Char) :
    scan [] ('\n' :: s) = if (s.splitOn '\n').all isIdleLine then some [] else none := by
  rw [Lexeme.scan.eq_def]
  simp [isBlank]

theorem idle_of_scan_line {ks : List Lexeme} (h : scan [] ('\n' :: s) = some ks) :
    ks = [] ∧ (s.splitOn '\n').all isIdleLine = true := by
  rw [scan_nil_line] at h
  split at h
  · rename_i hlines
    exact ⟨(Option.some.inj h).symm, hlines⟩
  · cases h

/-- A backslash continues a line that another one follows. -/
theorem exists_of_scan_slash {ks : List Lexeme} (h : scan stack ('\\' :: s) = some ks) :
    ∃ t, s = '\n' :: t ∧ t ≠ [] ∧ scan stack t = some ks := by
  rw [Lexeme.scan.eq_def] at h
  cases s with
  | nil => simp [isBlank] at h
  | cons d u =>
      by_cases hd : d = '\n' ∧ u ≠ []
      · obtain ⟨rfl, hne⟩ := hd
        exact ⟨u, rfl, hne, by simpa [isBlank, hne] using h⟩
      · have hnone : (d == '\n' && !u.isEmpty) = false := by
          rw [Bool.eq_false_iff, ne_eq, Bool.and_eq_true, beq_iff_eq, Bool.not_eq_true',
            List.isEmpty_eq_false_iff]
          exact hd
        simp [isBlank, hnone] at h

/-- Elsewhere a lexeme is next, if any. -/
theorem exists_of_scan_lexeme {c : Char} {ks : List Lexeme} (hblank : isBlank c = false)
    (hmark : c ∉ ['#', '\n', '\\']) (h : scan stack (c :: s) = some ks) :
    ∃ k rest stack' ks', next? (c :: s) = some (k, rest) ∧ rest.length < (c :: s).length ∧
      brackets? stack k = some stack' ∧ scan stack' rest = some ks' ∧ ks = k :: ks' := by
  rw [scan_other hblank hmark] at h
  obtain ⟨⟨k, rest⟩, hnext, h⟩ := Option.bind_eq_some_iff.1 h
  dsimp only at h
  split at h
  · rename_i hlt
    obtain ⟨stack', hstack, h⟩ := Option.bind_eq_some_iff.1 h
    obtain ⟨ks', hks, rfl⟩ := Option.map_eq_some_iff.1 h
    exact ⟨k, rest, stack', ks', hnext, hlt, hstack, hks, rfl⟩
  · cases h

theorem scan_remark (s : List Char) :
    scan stack ('#' :: s) = scan stack (s.dropWhile (· != '\n')) := by
  rw [Lexeme.scan.eq_def]
  simp [isBlank]

theorem IsIdle.scan {lead : List Char} (h : IsIdle lead) (hstack : stack ≠ []) (hs : s ≠ []) :
    scan stack (lead ++ s) = scan stack s := by
  induction h with
  | nil => rfl
  | blank hc _ ih => exact (scan_of_isBlank hc _).trans ih
  | continued _ ih => exact (scan_continued (List.append_ne_nil_of_right_ne_nil _ hs)).trans ih
  | line _ ih => exact (scan_line hstack _).trans ih
  | remark hw _ ih =>
      rw [List.cons_append, scan_remark, List.append_assoc, dropWhile_line hw, List.cons_append,
        List.dropWhile_cons_of_neg (by simp), scan_line hstack]
      exact ih

/-- Whether a text ends inside a remark, with nothing but idle text in front of it. -/
def IsRemark (s : List Char) : Prop :=
  ∃ lead w, IsIdle lead ∧ '\n' ∉ w ∧ s = lead ++ '#' :: w

/-- What stands behind an open remark belongs to it, up to the end of its line. -/
theorem IsRemark.scan (h : IsRemark s) (hstack : stack ≠ []) (t : List Char) :
    scan stack (s ++ t) = scan stack (t.dropWhile (· != '\n')) := by
  obtain ⟨lead, w, hlead, hw, rfl⟩ := h
  rw [List.append_assoc, hlead.scan hstack (by simp), List.cons_append, scan_remark,
    dropWhile_line hw]

/-! ## Rows -/

/-- Whether strings stand in a row in front of a tail, with gaps between them. -/
inductive IsRow : List Literal → List Char → List Char → Prop
  | string {l : Literal} {s tail : List Char} (h : next? s = some (.string l, tail)) :
      IsRow [l] s tail
  | cons {l : Literal} {ls : List Literal} {s gap rest tail : List Char}
      (h : next? s = some (.string l, gap ++ rest)) (hgap : IsGap gap)
      (hrest : IsRow ls rest tail) : IsRow (l :: ls) s tail

theorem IsRow.ne_nil (h : IsRow ls s tail) : s ≠ [] := by
  cases h with
  | string h => rintro rfl; cases h
  | cons h => rintro rfl; cases h

/-- A row of strings is read alike wherever it stands. -/
theorem IsRow.scan (h : IsRow ls s tail) (ht : tail = [] → ∀ c ∈ t.head?, c ≠ '\'' ∧ c ≠ '"') :
    scan stack (s ++ t) = (scan stack (tail ++ t)).map (ls.map .string ++ ·) := by
  induction h with
  | string h => exact scan_string (next?_string_append h ht)
  | @cons l ls s gap rest tail h hgap hrest ih =>
      have hnil : gap ++ rest ≠ [] := by simp [hrest.ne_nil]
      rw [scan_string (next?_string_append h fun h => absurd h hnil), List.append_assoc,
        hgap.scan (by simp [hrest.ne_nil]), ih ht, Option.map_map]
      rfl

/-! ## Texts of strings -/

/-- Whether a text ends with a quote, if it does not end at once. -/
def EndsQuoted (s : List Char) : Prop := ∀ c ∈ s.getLast?, c = '\'' ∨ c = '"'

theorem EndsQuoted.of_append {w : List Char} (h : EndsQuoted (w ++ s)) : EndsQuoted s := by
  intro c hc
  refine h c ?_
  rw [List.getLast?_append, Option.mem_def.1 hc]
  rfl

theorem EndsQuoted.ne_nil {w : List Char} (h : EndsQuoted (w ++ s)) {c : Char}
    (hlast : w.getLast? = some c) (hc : c ≠ '\'' ∧ c ≠ '"') : s ≠ [] := by
  rintro rfl
  rw [List.append_nil] at h
  exact (h c hlast).elim hc.1 hc.2

theorem IsRemark.idle {w : List Char} (hw : ∀ {s}, IsIdle s → IsIdle (w ++ s)) (h : IsRemark s) :
    IsRemark (w ++ s) := by
  obtain ⟨lead, v, hlead, hv, rfl⟩ := h
  exact ⟨w ++ lead, v, hw hlead, hv, (List.append_assoc ..).symm⟩

theorem ne_quote_of_isBlank {c : Char} (hc : isBlank c = true) : c ≠ '\'' ∧ c ≠ '"' := by
  constructor
  · rintro rfl
    exact absurd hc (by decide)
  · rintro rfl
    exact absurd hc (by decide)

/-- A remark goes up to the end of its line, or to the end of the text. -/
theorem isRemark_or_line (s : List Char) :
    ('\n' ∉ s ∧ IsRemark ('#' :: s)) ∨ ∃ w t, s = w ++ '\n' :: t ∧ '\n' ∉ w := by
  by_cases hs : '\n' ∈ s
  · obtain ⟨w, t, rfl, hw⟩ := List.eq_append_cons_of_mem hs
    exact .inr ⟨w, t, rfl, hw⟩
  · exact .inl ⟨hs, [], s, .nil, hs, rfl⟩

/-- Idle lines that end with a quote end inside a remark. -/
theorem isRemark_of_isIdleLine (s : List Char) (hlines : (s.splitOn '\n').all isIdleLine = true)
    (hs : s ≠ []) (hlast : EndsQuoted s) : IsRemark s := by
  match s with
  | [] => exact absurd rfl hs
  | c :: t =>
      obtain ⟨line, lines, ht⟩ := List.exists_cons_of_ne_nil (List.splitOn_ne_nil '\n' t)
      rw [List.splitOn_cons_eq_if_modifyHead, ht] at hlines
      have htail : EndsQuoted t := EndsQuoted.of_append (w := [c]) hlast
      by_cases hline : c = '\n'
      · subst hline
        rw [if_pos (beq_self_eq_true _), List.all_cons, Bool.and_eq_true, ← ht] at hlines
        have hne : t ≠ [] := EndsQuoted.ne_nil (w := ['\n']) hlast rfl (by decide)
        exact (isRemark_of_isIdleLine t hlines.2 hne htail).idle (w := ['\n']) .line
      rw [if_neg (by simpa using hline), List.modifyHead_cons, List.all_cons,
        Bool.and_eq_true] at hlines
      obtain ⟨hfirst, hothers⟩ := hlines
      by_cases hblank : isBlank c = true
      · rw [isIdleLine, List.dropWhile_cons_of_pos hblank] at hfirst
        have hidle : (t.splitOn '\n').all isIdleLine = true := by
          rw [ht, List.all_cons, Bool.and_eq_true]
          exact ⟨hfirst, hothers⟩
        have hne : t ≠ [] :=
          EndsQuoted.ne_nil (w := [c]) hlast rfl (ne_quote_of_isBlank hblank)
        exact (isRemark_of_isIdleLine t hidle hne htail).idle (w := [c]) (.blank hblank)
      · -- a line that does not begin with a blank is a remark
        have hhash : c = '#' := by
          rw [isIdleLine, List.dropWhile_cons_of_neg hblank] at hfirst
          exact beq_iff_eq.1 hfirst
        subst hhash
        obtain ⟨-, hremark⟩ | ⟨w, u, rfl, hw⟩ := isRemark_or_line t
        · exact hremark
        · rw [List.splitOn_append_cons_self_of_not_mem hw] at ht
          obtain ⟨-, rfl⟩ := List.cons.inj ht
          have hsplit : '#' :: (w ++ '\n' :: u) = '#' :: (w ++ ['\n']) ++ u := by simp
          rw [hsplit] at hlast ⊢
          have hlastOf : ('#' :: (w ++ ['\n'])).getLast? = some '\n' := by
            rw [← List.cons_append, List.getLast?_concat]
          have hne : u ≠ [] := hlast.ne_nil hlastOf (by decide)
          refine (isRemark_of_isIdleLine u hothers hne hlast.of_append).idle fun hidle => ?_
          simpa using IsIdle.remark hw hidle
termination_by s.length

/-- Outside of brackets nothing is read behind a line end: what ends with a quote there ends inside
a remark. -/
theorem isRemark_of_scan_line {ks : List Lexeme} (h : scan [] ('\n' :: s) = some ks)
    (hlast : EndsQuoted ('\n' :: s)) : ks = [] ∧ IsRemark ('\n' :: s) := by
  obtain ⟨hks, hlines⟩ := idle_of_scan_line h
  refine ⟨hks, isRemark_of_isIdleLine ('\n' :: s) ?_ (by simp) hlast⟩
  rw [List.splitOn_cons_eq_if_modifyHead, if_pos (by rfl), List.all_cons, hlines]
  rfl

/-- Nor is anything read behind a remark. -/
theorem isRemark_of_scan_remark {ks : List Lexeme} (h : scan [] ('#' :: s) = some ks)
    (hlast : EndsQuoted ('#' :: s)) : ks = [] ∧ IsRemark ('#' :: s) := by
  rw [scan_remark] at h
  obtain ⟨hline, hremark⟩ | ⟨w, u, rfl, hw⟩ := isRemark_or_line s
  · -- The remark goes on to the end of the text.
    have hdrop : s.dropWhile (· != '\n') = [] := by
      rw [← List.append_nil s, dropWhile_line hline]
      rfl
    rw [hdrop, scan_nil, Option.some.injEq] at h
    exact ⟨h.symm, hremark⟩
  · -- Lines follow the remark, all of them idle.
    rw [dropWhile_line hw, List.dropWhile_cons_of_neg (by simp)] at h
    obtain ⟨hks, hlines⟩ := idle_of_scan_line h
    refine ⟨hks, isRemark_of_isIdleLine ('#' :: (w ++ '\n' :: u)) ?_ (by simp) hlast⟩
    have hw' : '\n' ∉ '#' :: w := by simpa using hw
    rw [← List.cons_append, List.splitOn_append_cons_self_of_not_mem hw', List.all_cons, hlines]
    rfl

/-- **The texts of strings**: a row of strings, perhaps with a remark behind it that the end of the
text leaves open. -/
theorem isRow_of_scan (s : List Char) (ls : List Literal)
    (h : scan [] s = some (ls.map .string)) (hlast : EndsQuoted s) :
    (ls = [] ∧ (s = [] ∨ IsRemark s)) ∨
      ∃ gap rest tail, s = gap ++ rest ∧ IsGap gap ∧ IsRow ls rest tail ∧
        (tail = [] ∨ IsRemark tail) := by
  match s with
  | [] =>
      rw [scan_nil, Option.some.injEq] at h
      exact .inl ⟨List.map_eq_nil_iff.1 h.symm, .inl rfl⟩
  | c :: t =>
      have htail : EndsQuoted t := EndsQuoted.of_append (w := [c]) hlast
      -- blanks and continued lines are passed over; a remark or a line end leaves nothing to read
      by_cases hblank : isBlank c = true
      · have hne : t ≠ [] :=
          EndsQuoted.ne_nil (w := [c]) hlast rfl (ne_quote_of_isBlank hblank)
        rw [scan_of_isBlank hblank] at h
        obtain ⟨hls, hnil | hremark⟩ | ⟨gap, rest, tail, rfl, hgap, hrow⟩ :=
          isRow_of_scan t ls h htail
        · exact absurd hnil hne
        · exact .inl ⟨hls, .inr (hremark.idle (w := [c]) (.blank hblank))⟩
        · exact .inr ⟨c :: gap, rest, tail, rfl, .blank hblank hgap, hrow⟩
      by_cases hhash : c = '#'
      · subst hhash
        obtain ⟨hls, hremark⟩ := isRemark_of_scan_remark h hlast
        exact .inl ⟨List.map_eq_nil_iff.1 hls, .inr hremark⟩
      by_cases hline : c = '\n'
      · subst hline
        obtain ⟨hls, hremark⟩ := isRemark_of_scan_line h hlast
        exact .inl ⟨List.map_eq_nil_iff.1 hls, .inr hremark⟩
      by_cases hslash : c = '\\'
      · subst hslash
        obtain ⟨u, rfl, hne, h⟩ := exists_of_scan_slash h
        have hrest : EndsQuoted u := EndsQuoted.of_append (w := ['\n']) htail
        obtain ⟨hls, hnil | hremark⟩ | ⟨gap, rest, tail, rfl, hgap, hrow⟩ :=
          isRow_of_scan u ls h hrest
        · exact absurd hnil hne
        · exact .inl ⟨hls, .inr (hremark.idle (w := ['\\', '\n']) .continued)⟩
        · exact .inr ⟨'\\' :: '\n' :: gap, rest, tail, rfl, .continued hgap, hrow⟩
      -- a string begins the row, and what follows it is told by the texts behind it
      obtain ⟨k, rest, stack', ks, hnext, hlt, hstack, h, heq⟩ := exists_of_scan_lexeme
        (Bool.eq_false_iff.2 hblank) (by simp [hhash, hline, hslash]) h
      obtain ⟨l, ls', rfl, rfl, rfl⟩ := List.map_eq_cons_iff.1 heq
      obtain rfl : [] = stack' := Option.some.inj hstack
      have hrest : EndsQuoted rest := by
        obtain ⟨d, w, hsplit, -⟩ := exists_append_of_next?_string hnext
        rw [hsplit] at hlast
        exact EndsQuoted.of_append (w := d :: w) hlast
      have hle : rest.length ≤ t.length := Nat.le_of_lt_succ hlt
      refine .inr ⟨[], c :: t, ?_⟩
      obtain ⟨rfl, htail'⟩ | ⟨gap, rest', tail, rfl, hgap, hrow, htail'⟩ :=
        isRow_of_scan rest ls' h hrest
      · exact ⟨rest, rfl, .nil, .string hnext, htail'⟩
      · exact ⟨tail, rfl, .nil, .cons hnext hgap hrow, htail'⟩
termination_by s.length

end Curly.Lexeme
