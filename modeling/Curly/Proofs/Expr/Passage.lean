import Curly.Proofs.Expr.Number
import Curly.Proofs.Expr.Seam
import Mathlib.Data.List.Find

/-!
How the lexer goes through code up to a seam. Code is followed as strings that end and as characters
of neither a string nor a remark. Where it ends with a character that goes on in no lexeme, what
stands behind the seam may be put off by a blank: every lexeme in front is read alike.
-/

namespace Curly.Lexeme

open Shorthand (quotes literal literal_cons)
open Text.Unicode (normalName)

variable {quote : Char} {body r s t u w z F : List Char}

/-! ## Strings in code -/

/-- Whether code is made of strings that end and of characters of neither a string nor a remark. An
empty string is no front of three quotes. -/
inductive Runs : List Char → Prop
  | nil : Runs []
  | char {c : Char} {s : List Char} (hc : c ∉ ['\'', '"', '#']) (hs : Runs s) : Runs (c :: s)
  | string {quote : Char} {triple : Bool} {body s : List Char} (hquote : quote = '\'' ∨ quote = '"')
      (hbody : quoted? quote triple (body ++ quotes quote triple) = some (body, []))
      (hend : triple = false → body = [] → s.head? ≠ some quote) (hs : Runs s) :
      Runs (literal quote triple body ++ s)

theorem Runs.ne_hash {c : Char} (h : Runs (c :: s)) : c ≠ '#' := by
  rintro rfl
  generalize hs : '#' :: s = code at h
  cases h with
  | nil => cases hs
  | char hd =>
      cases hs
      exact hd (by decide)
  | @string quote triple body r hquote =>
      obtain ⟨v, hv⟩ := literal_cons quote triple body r
      rw [hv] at hs
      cases hs
      exact absurd rfl (ne_of_quote hquote (by decide))

theorem Runs.tail {c : Char} (hc : c ≠ '\'' ∧ c ≠ '"') (h : Runs (c :: s)) : Runs s := by
  generalize hs : c :: s = code at h
  cases h with
  | nil => cases hs
  | char hd hr =>
      cases hs
      exact hr
  | @string quote triple body r hquote =>
      obtain ⟨v, hv⟩ := literal_cons quote triple body r
      rw [hv] at hs
      cases hs
      exact absurd rfl (ne_of_quote hquote hc)

theorem Runs.of_append (hu : ∀ c ∈ u, c ≠ '\'' ∧ c ≠ '"') (h : Runs (u ++ s)) : Runs s := by
  induction u with
  | nil => exact h
  | cons c u ih =>
      obtain ⟨hc, hu⟩ := List.forall_mem_cons.1 hu
      exact ih hu (h.tail hc)

theorem Runs.exists_of_quote (hquote : quote = '\'' ∨ quote = '"') (h : Runs (quote :: s)) :
    ∃ triple body r, quote :: s = literal quote triple body ++ r ∧
      quoted? quote triple (body ++ quotes quote triple) = some (body, []) ∧
      (triple = false → body = [] → r.head? ≠ some quote) ∧ Runs r := by
  generalize hs : quote :: s = code at h
  cases h with
  | nil => cases hs
  | char hd =>
      cases hs
      simp only [List.mem_cons, List.not_mem_nil, or_false, not_or] at hd
      exact (hquote.elim hd.1 hd.2.1).elim
  | @string quote' triple body r hquote' hbody hend hr =>
      obtain ⟨v, hv⟩ := literal_cons quote' triple body r
      obtain ⟨rfl, -⟩ := List.cons.inj (hs.trans hv)
      exact ⟨triple, body, r, rfl, hbody, hend, hr⟩

/-- A string is read up to its closing quotes, whatever is behind. -/
theorem string?_literal {triple : Bool} (hquote : quote = '\'' ∨ quote = '"')
    (hbody : quoted? quote triple (body ++ quotes quote triple) = some (body, []))
    (hend : triple = false → body = [] → z.head? ≠ some quote) (p : List Char) :
    string? p (literal quote triple body ++ z) =
      (literalOf? p body).map fun l => (l, z) := by
  have hread := quoted?_append_rest hbody z
  cases triple with
  | true =>
      have htext : literal quote true body ++ z =
          quote :: quote :: quote :: (body ++ quotes quote true ++ z) := by
        simp [literal, quotes]
      have hprefix (v : List Char) : [quote, quote].isPrefixOf (quote :: quote :: v) = true := by
        simp [List.isPrefixOf]
      rw [htext, string?_cons, hprefix, if_pos rfl, List.drop_succ_cons, List.drop_succ_cons,
        List.drop_zero, hread]
      rfl
  | false =>
      have htext : literal quote false body ++ z = quote :: (body ++ quotes quote false ++ z) := by
        simp [literal, quotes]
      have hprefix : [quote, quote].isPrefixOf (body ++ quotes quote false ++ z) = false := by
        cases body with
        | nil =>
            cases z with
            | nil => simp [quotes, List.isPrefixOf]
            | cons c z =>
                have hc : c ≠ quote := fun h => hend rfl rfl (congrArg some h)
                simp [quotes, List.isPrefixOf, hc.symm]
        | cons c b =>
            -- a quote in front would have ended the string
            have hc : c ≠ quote := by
              rintro rfl
              rw [List.cons_append, quoted?] at hbody
              · simp at hbody
              · exact fun h => ne_of_quote hquote (c := '\\') (by decide) h.symm
            simp [List.isPrefixOf, hc.symm]
      rw [htext, string?_cons, hprefix, if_neg Bool.false_ne_true, hread]
      rfl

/-! ## Lexemes in front of a seam -/

/-- What stands behind a seam: a name, a number or a blank. -/
def AtSeam (t : List Char) : Prop := ∃ c ∈ t.head?, isNameChar c = true ∨ c = ' '

/-- Whether the next lexeme of some code is read alike in front of a text. -/
structure ReadsWithin (s t : List Char) : Prop where
  eq : next? (s ++ t) = (next? s).map fun (l, w) => (l, w ++ t)
  rest : ∀ l w, next? s = some (l, w) → w <:+ s ∧ Runs w

theorem Closes.tail_of_ne_nil {c : Char} (h : Closes (c :: s)) (hs : s ≠ []) : Closes s :=
  h.of_suffix (List.suffix_cons c s) hs

/-! ### Numbers -/

theorem ne_quote_of_isNumeralChar : ∀ c : Char, isNumeralChar c = true → c ≠ '\'' ∧ c ≠ '"' := by
  intro c hc
  constructor
  · rintro rfl
    exact absurd hc (by decide)
  · rintro rfl
    exact absurd hc (by decide)

theorem readsWithin_number {c : Char} (hs : Runs (c :: s)) (hclose : Closes (c :: s))
    (hnumber : (c.isDigit || (c == '.' && s.head?.any Char.isDigit)) = true)
    (hexponent : t.head?.any Char.isDigit = true → ¬EndsExponent (c :: s)) :
    ReadsWithin (c :: s) t := by
  -- the number does not end with the front, so the next character is the same with the rest behind
  have hbegins : BeginsNumber (c :: s) := by
    refine ⟨c, rfl, ?_⟩
    rw [Bool.or_eq_true, Bool.and_eq_true, beq_iff_eq] at hnumber
    exact hnumber.imp_right And.left
  have hrest : Closes s := hclose.tail_of_ne_nil (hbegins.ne_nil hclose)
  have hhead : (s ++ t).head? = s.head? := head?_append_of_closes hrest t
  have hstops := stopsWithin_number? hclose hbegins hexponent
  constructor
  · have hnumber' := hnumber
    rw [← hhead] at hnumber'
    rw [List.cons_append, next?_number hnumber', next?_number hnumber, ← List.cons_append,
      hstops.eq, Option.map_map, Option.map_map]
    rfl
  · intro l w h
    rw [next?_number hnumber] at h
    obtain ⟨⟨n, r⟩, hread, heq⟩ := Option.map_eq_some_iff.1 h
    cases heq
    obtain ⟨-, u, hsplit, hu⟩ := hstops.stops n _ hread
    rw [hsplit] at hs ⊢
    exact ⟨List.suffix_append u _, hs.of_append fun c hc => ne_quote_of_isNumeralChar c (hu c hc)⟩

/-! ### Strings and words -/

theorem string?_append_of_runs (hquote : quote = '\'' ∨ quote = '"') (hs : Runs (quote :: s))
    (ht : ∀ c ∈ t.head?, c ≠ '\'' ∧ c ≠ '"') (p : List Char) :
    string? p (quote :: s ++ t) = (string? p (quote :: s)).map (fun (l, w) => (l, w ++ t)) ∧
      ∀ l w, string? p (quote :: s) = some (l, w) → w <:+ quote :: s ∧ Runs w := by
  obtain ⟨triple, body, r, hsplit, hbody, hend, hr⟩ := hs.exists_of_quote hquote
  -- A third quote behind an empty string would make the quotes triple, and no quote follows.
  have hbehind : triple = false → body = [] → (r ++ t).head? ≠ some quote := by
    intro htriple hnil
    cases r with
    | nil => exact fun hc => ne_of_quote hquote (ht quote hc) rfl
    | cons c r => exact hend htriple hnil
  rw [hsplit, List.append_assoc, string?_literal hquote hbody hend,
    string?_literal hquote hbody hbehind, Option.map_map]
  refine ⟨rfl, fun l w h => ?_⟩
  obtain ⟨l', -, heq⟩ := Option.map_eq_some_iff.1 h
  cases heq
  exact ⟨List.suffix_append _ _, hr⟩

theorem readsWithin_quote (hquote : quote = '\'' ∨ quote = '"') (hs : Runs (quote :: s))
    (ht : ∀ c ∈ t.head?, c ≠ '\'' ∧ c ≠ '"') : ReadsWithin (quote :: s) t := by
  obtain ⟨heq, hrest⟩ := string?_append_of_runs hquote hs ht []
  constructor
  · rw [List.cons_append] at heq ⊢
    rw [next?_quote hquote, next?_quote hquote, heq, Option.map_map, Option.map_map]
    rfl
  · intro l w h
    rw [next?_quote hquote] at h
    obtain ⟨⟨l', r⟩, hread, heq⟩ := Option.map_eq_some_iff.1 h
    cases heq
    exact hrest l' _ hread

theorem ofSpan?_append {c : Char} (hs : Runs (c :: s)) (ht : ∀ c ∈ t.head?, c ≠ '\'' ∧ c ≠ '"')
    (word : List Char) :
    ofSpan? word (c :: s ++ t) = (ofSpan? word (c :: s)).map (fun (l, w) => (l, w ++ t)) ∧
      ∀ l w, ofSpan? word (c :: s) = some (l, w) → w <:+ c :: s ∧ Runs w := by
  have hhead : (c :: s ++ t).head? = (c :: s).head? := rfl
  -- the word is the prefix of a string, or a lexeme by itself
  by_cases hquoted : ((c :: s).head?.any (fun q => q == '\'' || q == '"') &&
      (stringPrefix? word).isSome) = true
  · have hquote : c = '\'' ∨ c = '"' := by
      rw [Bool.and_eq_true, List.head?_cons, Option.any_some, Bool.or_eq_true, beq_iff_eq,
        beq_iff_eq] at hquoted
      exact hquoted.1
    obtain ⟨heq, hrest⟩ := string?_append_of_runs hquote hs ht word
    rw [ofSpan?, ofSpan?, hhead, if_pos hquoted, if_pos hquoted, heq, Option.map_map,
      Option.map_map]
    refine ⟨rfl, fun l w h => ?_⟩
    obtain ⟨⟨l', r⟩, hread, hpair⟩ := Option.map_eq_some_iff.1 h
    cases hpair
    exact hrest l' _ hread
  · rw [ofSpan?, ofSpan?, hhead, if_neg hquoted, if_neg hquoted, Option.map_map]
    refine ⟨rfl, fun l w h => ?_⟩
    obtain ⟨l', -, hpair⟩ := Option.map_eq_some_iff.1 h
    cases hpair
    exact ⟨List.suffix_rfl, hs⟩

theorem readsWithin_name {c : Char} (hs : Runs (c :: s)) (hclose : Closes (c :: s))
    (hdigit : c.isDigit = false) (hc : isNameChar c = true)
    (ht : ∀ c ∈ t.head?, c ≠ '\'' ∧ c ≠ '"') : ReadsWithin (c :: s) t := by
  have hsplit : (c :: s).takeWhile isNameChar ++ (c :: s).dropWhile isNameChar = c :: s :=
    List.takeWhile_append_dropWhile
  have hword : ∀ d ∈ (c :: s).takeWhile isNameChar, isNameChar d = true :=
    fun d hd => List.mem_takeWhile_imp hd
  have hsuffix : (c :: s).dropWhile isNameChar <:+ c :: s := List.dropWhile_suffix isNameChar
  -- the word ends in the front, since the last character there goes on in no word
  have hend : (c :: s).dropWhile isNameChar ≠ [] := by
    obtain ⟨d, hd, hclosed, -⟩ := hclose
    intro hnil
    rw [List.dropWhile_eq_nil_iff.1 hnil d (List.mem_of_getLast? hd)] at hclosed
    cases hclosed
  have hhead := List.head?_dropWhile_not isNameChar (c :: s)
  generalize hw : (c :: s).takeWhile isNameChar = word at *
  generalize hr : (c :: s).dropWhile isNameChar = rest at *
  obtain ⟨d, r, rfl⟩ := List.exists_cons_of_ne_nil hend
  have hruns : Runs (d :: r) := by
    rw [← hsplit] at hs
    exact hs.of_append fun e he =>
      ne_quote_of_isNumeralChar e (isNumeralChar_of_isNameChar (hword e he))
  have hspan : (word ++ (d :: r ++ t)).span isNameChar = (word, d :: r ++ t) :=
    span_append hword (by simpa using hhead)
  rw [List.span_eq_takeWhile_dropWhile, ← List.append_assoc, hsplit, Prod.mk.injEq] at hspan
  obtain ⟨heq, hrest⟩ := ofSpan?_append hruns ht word
  have hfront : next? (c :: s) = ofSpan? word (d :: r) := by rw [next?_name hdigit hc, hw, hr]
  constructor
  · rw [hfront, ← heq, List.cons_append, next?_name hdigit hc, ← List.cons_append, hspan.1, hspan.2]
  · intro l w h
    rw [hfront] at h
    obtain ⟨hw, hrw⟩ := hrest l w h
    exact ⟨hw.trans hsuffix, hrw⟩

/-! ### Marks -/

theorem ne_of_mem_symbols : ∀ w ∈ symbols, ∀ c ∈ w.toList,
    (isNameChar c = false ∧ c ≠ ' ') ∧ c ≠ '\'' ∧ c ≠ '"' := by
  have hall : ∀ w ∈ symbols, (w.toList.all fun c =>
      (isNameChar c = false ∧ c ≠ ' ') ∧ c ≠ '\'' ∧ c ≠ '"') = true := by
    decide
  exact fun w hw => List.all_iff_forall_prop.1 (hall w hw)

theorem readsWithin_mark {c : Char} (hs : Runs (c :: s)) (hclose : Closes (c :: s))
    (hnumber : ¬(c.isDigit || (c == '.' && s.head?.any Char.isDigit)) = true)
    (hquote : c ≠ '\'' ∧ c ≠ '"') (hc : isNameChar c = false) (ht : AtSeam t) :
    ReadsWithin (c :: s) t := by
  have hnumber' : ¬(c.isDigit || (c == '.' && (s ++ t).head?.any Char.isDigit)) = true := by
    cases s with
    | nil =>
        obtain ⟨d, hd, -, hpoint⟩ := hclose
        obtain rfl : c = d := Option.some.inj hd
        simpa [hpoint] using hnumber
    | cons d s => exact hnumber
  -- no mark goes on with what stands behind the seam
  have hprefix (w : String) (hw : w ∈ symbols) :
      w.toList.isPrefixOf (c :: s ++ t) = w.toList.isPrefixOf (c :: s) := by
    refine isPrefixOf_append fun v hv heq hprefix => ?_
    obtain ⟨d, v, rfl⟩ := List.exists_cons_of_ne_nil hv
    obtain ⟨t, rfl⟩ := hprefix
    obtain ⟨e, he, hseam⟩ := ht
    obtain rfl : d = e := Option.some.inj he
    have hmem : d ∈ w.toList := heq ▸ List.mem_append_right _ List.mem_cons_self
    obtain ⟨⟨hname, hblank⟩, -⟩ := ne_of_mem_symbols w hw d hmem
    rw [hname] at hseam
    exact hseam.elim Bool.false_ne_true hblank
  -- the mark is what it takes from the text
  have htake (w : String) (hw : w ∈ symbols.find? fun w => w.toList.isPrefixOf (c :: s)) :
      w.toList = (c :: s).take w.length := by
    have hfound := List.find?_some (Option.mem_def.1 hw)
    rw [List.isPrefixOf_iff_prefix, List.prefix_iff_eq_take, String.length_toList] at hfound
    exact hfound
  constructor
  · rw [List.cons_append, next?_mark hnumber' hquote hc, next?_mark hnumber hquote hc,
      ← List.cons_append, List.find?_congr hprefix, Option.map_map]
    refine Option.map_congr fun w hw => ?_
    have hlength := congrArg List.length (htake w hw)
    rw [String.length_toList, List.length_take] at hlength
    rw [List.drop_append_of_le_length (by omega)]
    rfl
  · intro l w h
    rw [next?_mark hnumber hquote hc] at h
    obtain ⟨symbol, hfind, heq⟩ := Option.map_eq_some_iff.1 h
    cases heq
    have hsymbol := ne_of_mem_symbols symbol (List.mem_of_find?_eq_some hfind)
    rw [htake symbol hfind] at hsymbol
    rw [← List.take_append_drop symbol.length (c :: s)] at hs
    exact ⟨List.drop_suffix _ _, hs.of_append fun d hd => (hsymbol d hd).2⟩

/-- **A lexeme in front of a seam** is read alike whatever is behind the seam, unless digits behind
it go on with an exponent. -/
theorem readsWithin {c : Char} (hs : Runs (c :: s)) (hclose : Closes (c :: s)) (ht : AtSeam t)
    (hexponent : t.head?.any Char.isDigit = true → ¬EndsExponent (c :: s)) :
    ReadsWithin (c :: s) t := by
  have hquotes : ∀ d ∈ t.head?, d ≠ '\'' ∧ d ≠ '"' := by
    obtain ⟨e, he, hseam⟩ := ht
    intro d hd
    obtain rfl : e = d := Option.some.inj (he.symm.trans hd)
    obtain hname | rfl := hseam
    · exact ne_quote_of_isNumeralChar e (isNumeralChar_of_isNameChar hname)
    · decide
  by_cases hnumber : (c.isDigit || (c == '.' && s.head?.any Char.isDigit)) = true
  · exact readsWithin_number hs hclose hnumber hexponent
  by_cases hquote : c = '\'' ∨ c = '"'
  · exact readsWithin_quote hquote hs hquotes
  cases hname : isNameChar c with
  | true =>
      rw [Bool.or_eq_true, not_or, Bool.not_eq_true] at hnumber
      exact readsWithin_name hs hclose hnumber.1 hname hquotes
  | false => exact readsWithin_mark hs hclose hnumber (not_or.1 hquote) hname ht

/-! ## Code that is read alike -/

/-- Whether the lines of some code are all idle. -/
def isIdleText (s : List Char) : Bool := (s.splitOn '\n').all isIdleLine

/-- Whether two codes are read alike, whatever brackets are open, and both or none are idle. -/
structure ScansAlike (s t : List Char) : Prop where
  scan : ∀ stack, scan stack s = scan stack t
  idle : isIdleText s = isIdleText t

theorem ScansAlike.refl (s : List Char) : ScansAlike s s := ⟨fun _ => rfl, rfl⟩

theorem isIdleText_line (s : List Char) : isIdleText ('\n' :: s) = isIdleText s := by
  rw [isIdleText, List.splitOn_cons_eq_if_modifyHead, if_pos (beq_self_eq_true _), List.all_cons]
  rfl

theorem isIdleText_cons {c : Char} (hc : c ≠ '\n') (s : List Char) :
    ∃ line lines, s.splitOn '\n' = line :: lines ∧
      isIdleText (c :: s) = (isIdleLine (c :: line) && lines.all isIdleLine) := by
  obtain ⟨line, lines, hlines⟩ := List.exists_cons_of_ne_nil (List.splitOn_ne_nil '\n' s)
  refine ⟨line, lines, hlines, ?_⟩
  rw [isIdleText, List.splitOn_cons_eq_if_modifyHead, if_neg (by simpa using hc), hlines]
  rfl

theorem isIdleText_blank {c : Char} (hc : isBlank c = true) (s : List Char) :
    isIdleText (c :: s) = isIdleText s := by
  have hline : c ≠ '\n' := by
    rintro rfl
    exact absurd hc (by decide)
  obtain ⟨line, lines, hlines, heq⟩ := isIdleText_cons hline s
  rw [heq, isIdleLine, List.dropWhile_cons_of_pos hc, isIdleText, hlines]
  rfl

theorem isIdleText_other {c : Char} (hblank : isBlank c = false) (hline : c ≠ '\n')
    (hhash : c ≠ '#') (s : List Char) : isIdleText (c :: s) = false := by
  obtain ⟨line, lines, -, heq⟩ := isIdleText_cons hline s
  rw [heq, isIdleLine, List.dropWhile_cons_of_neg (by simp [hblank])]
  dsimp only
  rw [beq_false_of_ne hhash, Bool.false_and]

theorem scansAlike_blank_iff : ScansAlike s (' ' :: t) ↔ ScansAlike s t := by
  have hscan (stack : List String) := scan_blank stack t
  have hidle := isIdleText_blank (c := ' ') (by decide) t
  constructor
  · intro h
    exact ⟨fun stack => (h.scan stack).trans (hscan stack), h.idle.trans hidle⟩
  · intro h
    exact ⟨fun stack => (h.scan stack).trans (hscan stack).symm, h.idle.trans hidle.symm⟩

theorem EndsExponent.of_suffix (h : EndsExponent w) (hw : w <:+ s) : EndsExponent s := by
  obtain ⟨u, d, e, g, rfl, hparts⟩ := h
  obtain ⟨v, rfl⟩ := hw
  exact ⟨v ++ u, d, e, g, (List.append_assoc ..).symm, hparts⟩

theorem AtSeam.ne_nil (h : AtSeam t) : t ≠ [] := by
  rintro rfl
  obtain ⟨c, hc, -⟩ := h
  cases hc

/-- A backslash is in front of another line, or of nothing that is read. -/
theorem scan_slash (stack : List String) (s : List Char) :
    scan stack ('\\' :: s) =
      match s with
      | d :: u => if d == '\n' && !u.isEmpty then scan stack u else none
      | [] => none := by
  rw [scan.eq_def]
  rfl

/-- **Seams.** Where two codes are read alike, the same code in front of both is read alike. -/
theorem ScansAlike.append (h : ScansAlike s t) (hF : Runs F) (hclose : F ≠ [] → Closes F)
    (hs : AtSeam s) (ht : AtSeam t)
    (hexponent : s.head?.any Char.isDigit = true ∨ t.head?.any Char.isDigit = true →
      ¬EndsExponent F) : ScansAlike (F ++ s) (F ++ t) := by
  induction hn : F.length using Nat.strong_induction_on generalizing F with
  | _ n ih =>
    subst hn
    cases F with
    | nil => exact h
    | cons c F =>
        have hclose := hclose (List.cons_ne_nil c F)
        have hbehind {w : List Char} (hw : w <:+ c :: F) (hlt : w.length < (c :: F).length)
            (hruns : Runs w) : ScansAlike (w ++ s) (w ++ t) :=
          ih _ hlt hruns (hclose.of_suffix hw) (fun hdigit hends =>
            hexponent hdigit (hends.of_suffix hw)) rfl
        by_cases hblank : isBlank c = true
        · have hrest := hbehind (List.suffix_cons c F) (Nat.lt_succ_self _)
            (hF.tail (ne_quote_of_isBlank hblank))
          constructor
          · intro stack
            rw [List.cons_append, scan_of_isBlank hblank, hrest.scan, List.cons_append,
              scan_of_isBlank hblank]
          · rw [List.cons_append, isIdleText_blank hblank, hrest.idle, List.cons_append,
              isIdleText_blank hblank]
        by_cases hline : c = '\n'
        · subst hline
          have hrest := hbehind (List.suffix_cons _ F) (Nat.lt_succ_self _) (hF.tail (by decide))
          constructor
          · intro stack
            rw [List.cons_append, List.cons_append]
            by_cases hstack : stack = []
            · subst hstack
              have hidle := hrest.idle
              rw [isIdleText, isIdleText] at hidle
              rw [scan_nil_line, scan_nil_line, hidle]
            · rw [scan_line hstack, scan_line hstack, hrest.scan]
          · rw [List.cons_append, isIdleText_line, hrest.idle, List.cons_append, isIdleText_line]
        have hidle (t : List Char) : isIdleText (c :: t) = false :=
          isIdleText_other (Bool.eq_false_iff.2 hblank) hline hF.ne_hash t
        refine ⟨fun stack => ?_, by
          rw [List.cons_append, hidle, List.cons_append, hidle]⟩
        by_cases hslash : c = '\\'
        · subst hslash
          rw [List.cons_append, List.cons_append, scan_slash, scan_slash]
          cases F with
          | nil =>
              -- no line ends at a seam
              have hnone {v : List Char} (hv : AtSeam v) : ∃ d u, v = d :: u ∧ d ≠ '\n' := by
                obtain ⟨d, hd, hseam⟩ := hv
                obtain ⟨u, rfl⟩ := List.head?_eq_some_iff.1 hd
                refine ⟨d, u, rfl, ?_⟩
                rintro rfl
                exact absurd hseam (by decide)
              obtain ⟨d, u, rfl, hd⟩ := hnone hs
              obtain ⟨d', u', rfl, hd'⟩ := hnone ht
              simp [hd, hd']
          | cons d F =>
              by_cases hd : d = '\n'
              · subst hd
                have hruns := (hF.tail (by decide)).tail (by decide)
                have hrest := hbehind (w := F) ⟨['\\', '\n'], rfl⟩
                  (by simp only [List.length_cons]; omega) hruns
                simp [hs.ne_nil, ht.ne_nil, hrest.scan]
              · simp [hd]
        have hmark : c ∉ ['#', '\n', '\\'] := by simp [hF.ne_hash, hline, hslash]
        have hread (stack : List String) (s : List Char) :=
          scan_other (Bool.eq_false_iff.2 hblank) hmark stack s
        have hfront := readsWithin hF hclose hs fun hdigit => hexponent (.inl hdigit)
        have hfront' := readsWithin hF hclose ht fun hdigit => hexponent (.inr hdigit)
        have heq := hfront.eq
        have heq' := hfront'.eq
        rw [List.cons_append] at heq heq' ⊢
        rw [List.cons_append, hread, hread, heq, heq']
        cases hnext : next? (c :: F) with
        | none => rfl
        | some found =>
            obtain ⟨l, w⟩ := found
            obtain ⟨hsuffix, hruns⟩ := hfront.rest l w hnext
            dsimp only [Option.map_some, Option.bind_some]
            have hlength (t : List Char) :
                (w ++ t).length < (c :: (F ++ t)).length ↔ w.length < (c :: F).length := by
              simp only [List.length_cons, List.length_append]
              omega
            simp only [hlength]
            split
            · rename_i hlt
              have hrest := hbehind hsuffix hlt hruns
              refine congrArg _ (funext fun stack => ?_)
              rw [hrest.scan]
            · rfl

/-! ### Bindings -/

/-- What an index stands for: zero, or a name that is no prefix of a string. -/
def IsBinding (r : List Char) : Prop :=
  r = ['0'] ∨ isPlainWord r = true ∧ stringPrefix? r = none

/-- What may follow a binding: no character of a name, and no point behind zero. -/
def EndsBinding (r s : List Char) : Prop :=
  ∀ c ∈ s.head?, isNameChar c = false ∧ (r = ['0'] → c ≠ '.')

theorem next?_zero (hs : ∀ c ∈ s.head?, isNameChar c = false ∧ c ≠ '.') :
    next? ('0' :: s) = some (.number (.int 0), s) := by
  have hne {c : Char} (hc : c ∈ s.head?) {d : Char} (hd : isNameChar d = true) : c ≠ d :=
    (ne_of_isNameChar hd (hs c hc).1).symm
  have hends : EndsDigits s := fun c hc =>
    ⟨Bool.eq_false_iff.2 fun hdigit => hne hc (isNameChar_of_isDigit c hdigit) rfl,
      hne hc (by decide)⟩
  have hzero : ∀ d ∈ ['0'], Char.isDigit d = true := List.all_iff_forall_prop.1 (by decide)
  have hwhole : wholePart? ('0' :: s) = some (['0'], s) := digitRun?_append hzero hends
  have hfraction : fractionPart? s = some (none, s) := by
    refine fractionPart?_of_ne ?_
    rintro u rfl
    exact (hs '.' rfl).2 rfl
  have hexponent : exponent? s = some (none, s) := by
    cases s with
    | nil => rfl
    | cons c s =>
        have hlower : c ≠ 'e' := hne rfl (by decide)
        have hupper : c ≠ 'E' := hne rfl (by decide)
        simp [exponent?, hlower, hupper]
  have hunit : unit? s = some (false, s) := by
    cases s with
    | nil => rfl
    | cons c s =>
        have hlower : c ≠ 'j' := hne rfl (by decide)
        have hupper : c ≠ 'J' := hne rfl (by decide)
        simp [unit?, numberMayEnd, (hs c rfl).1, hlower, hupper]
  have hdecimal : decimal? ('0' :: s) = some (.int 0, s) := by
    rw [decimal?_eq, hwhole, Option.bind_some]
    dsimp only
    rw [hfraction, Option.bind_some]
    dsimp only
    rw [hexponent, Option.bind_some]
    dsimp only
    rw [hunit, Option.bind_some]
    rfl
  rw [next?_number rfl, number?_of_decimal, hdecimal]
  · rfl
  · intro _ c hc hmark
    have hname : ∀ d ∈ ['x', 'X', 'o', 'O', 'b', 'B'], isNameChar d = true :=
      List.all_iff_forall_prop.1 (by decide)
    exact hne hc (hname c hmark) rfl

/-- A binding is a lexeme of its own, in brackets or not. -/
theorem IsBinding.next? (h : IsBinding r) : ∃ c v l, r = c :: v ∧ isNameChar c = true ∧
    (∀ stack, brackets? stack l = some stack) ∧
    ∀ s, EndsBinding r s → Lexeme.next? (r ++ s) = some (l, s) := by
  obtain rfl | ⟨hr, hprefix⟩ := h
  · exact ⟨_, _, _, rfl, by decide, fun _ => rfl, fun s hs => next?_zero fun c hc =>
      ⟨(hs c hc).1, (hs c hc).2 rfl⟩⟩
  have hchars := isNameChar_of_mem hr
  obtain ⟨c, v, rfl⟩ := List.exists_cons_of_ne_nil (ne_nil_of_isPlainWord hr)
  -- neither a name nor a reserved word opens or closes a bracket
  refine ⟨c, v, ofWord (c :: v), rfl, hchars c List.mem_cons_self, fun stack => ?_, fun s hs => ?_⟩
  · rw [ofWord]
    split
    · rfl
    · rfl
  · have hend : s.head?.any isNameChar = false := by
      cases s with
      | nil => rfl
      | cons d s => exact (hs d rfl).1
    -- a quote may follow the word, but it is no prefix of a string
    rw [next?_append (ne_nil_of_isPlainWord hr) (not_isDigit_of_isPlainWord hr) hchars hend,
      ofSpan?, hprefix, ofName?_plainWord hr, Option.isSome_none, Bool.and_false]
    rfl

/-- What follows a binding is read by itself. -/
theorem ScansAlike.binding (hr : IsBinding r) (h : ScansAlike s t) (hs : EndsBinding r s)
    (ht : EndsBinding r t) : ScansAlike (r ++ s) (r ++ t) := by
  obtain ⟨c, v, l, rfl, hc, hstack, hnext⟩ := hr.next?
  have hbegins := beginsLexeme_of_isNameChar hc
  have hscan {s : List Char} (hs : EndsBinding (c :: v) s) (stack : List String) :
      Lexeme.scan stack (c :: v ++ s) = (Lexeme.scan stack s).map (l :: ·) := by
    have hlt : s.length < (c :: (v ++ s)).length := by
      simp only [List.length_cons, List.length_append]
      omega
    exact scan_next hbegins (hnext s hs) hlt (hstack stack)
  have hidle (s : List Char) : isIdleText (c :: v ++ s) = false :=
    isIdleText_other hbegins.1 (fun h => hbegins.2 (by simp [h])) (fun h => hbegins.2 (by simp [h]))
      (v ++ s)
  constructor
  · intro stack
    rw [hscan hs, hscan ht, h.scan]
  · rw [hidle, hidle]

end Curly.Lexeme
