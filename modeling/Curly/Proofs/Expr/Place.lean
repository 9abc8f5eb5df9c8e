import Curly.Proofs.Expr.Descent
import Curly.Proofs.Expr.Row

/-!
Strings in their place. A text that is a string by itself is pasted into a line of code. What stands
behind it there is read as if it stood behind the plain code of this string, unless the text leaves
a remark open: then the rest of its line belongs to the remark.
-/

namespace Curly

open Lexeme Parse

namespace Lexeme

variable {front code code' back s : List Char} {ks ls ls' : List Lexeme} {stack : List String}

/-- Whether the lexer arrives behind some code with lexemes and open brackets, whatever follows. -/
structure Arrives (front : List Char) (ks : List Lexeme) (stack : List String) : Prop where
  ofText_append : ∀ s, ofText (front ++ s) = (scan stack (normalizeLines s)).map (ks ++ ·)
  hasRoom : stack.length ≤ bracketLimit

/-- Code in its place. -/
theorem ReadsAs.ofText (h : ReadsAs 0 code ls) (hfront : Arrives front ks stack)
    (hback : Breaks back) :
    ofText (front ++ code ++ back) =
      (scan stack (normalizeLines back)).map fun ls' => ks ++ (ls ++ ls') := by
  rw [List.append_assoc, hfront.ofText_append, h hfront.hasRoom hback, Option.map_map]
  rfl

/-- The last character of a text is the last one of its lines, if it ends no line. -/
theorem getLast?_normalizeLines {c : Char} (hreturn : c ≠ '\r') (hline : c ≠ '\n')
    (h : s.getLast? = some c) : (normalizeLines s).getLast? = some c := by
  -- on the characters: a pair of line ends, a carriage return, and any other character
  fun_induction normalizeLines s with
  | case1 => exact h
  | case2 s ih =>
      cases s with
      | nil =>
          cases h
          exact absurd rfl hline
      | cons d s =>
          rw [List.getLast?_cons, ih (by simpa using h)]
          rfl
  | case3 s hs ih =>
      cases s with
      | nil =>
          cases h
          exact absurd rfl hreturn
      | cons d s =>
          rw [List.getLast?_cons, ih (by simpa using h)]
          rfl
  | case4 d s hpair hd ih =>
      cases s with
      | nil => exact h
      | cons e s =>
          rw [List.getLast?_cons, ih (by simpa using h)]
          rfl

theorem literalOf?_text (marked : Bool) (body : List Char) :
    literalOf? (if marked then ['u'] else []) body =
      (unescape? false 0 body).map fun text => .str (String.ofList text) marked := by
  cases marked with
  | true => cases h : unescape? false 0 body <;> simp [literalOf?, stringPrefix?, h]
  | false => cases h : unescape? false 0 body <;> simp [literalOf?, stringPrefix?, h]

/-- A mark in front of a string is kept with it. -/
theorem string?_marked {quote : Char} {value : String} {rest : List Char}
    (h : string? [] (quote :: s) = some (.str value false, rest)) :
    string? ['u'] (quote :: s) = some (.str value true, rest) := by
  rw [string?_cons] at h ⊢
  obtain ⟨⟨body, rest'⟩, hquoted, hmap⟩ := Option.bind_eq_some_iff.1 h
  obtain ⟨l, hl, heq⟩ := Option.map_eq_some_iff.1 hmap
  cases heq
  obtain ⟨text, htext, heq⟩ := Option.map_eq_some_iff.1 ((literalOf?_text false body).symm.trans hl)
  cases heq
  have hmarked := literalOf?_text true body
  rw [if_pos rfl, htext] at hmarked
  rw [hquoted, Option.bind_some, hmarked]
  rfl

/-- The plain code of a text is one string. -/
theorem readsAs_code (value : String) (marked : Bool) :
    ReadsAs 0 (Literal.str value marked).code.toList [.string (.str value marked)] := by
  -- the mark is a prefix in front of the same quotes
  cases marked with
  | false =>
      have hcode : (Literal.str value false).code = Text.Quoted.ofString value := by
        simp [Literal.code]
      rw [hcode]
      exact readsAs_encode value
  | true =>
      have hcode : (Literal.str value true).code.toList =
          'u' :: Text.Quoted.encode value.toList := by
        simp [Literal.code, Text.Quoted.ofString]
      intro stack rest _ hrest
      have hquote := Text.Quoted.quoteFor_eq value.toList
      have hstring := string?_encode value.toList hrest.normalizeLines.not_quote
      rw [String.ofList_toList] at hstring
      have hbegins : BeginsString ['u'] (Text.Quoted.quoteFor value.toList) :=
        ⟨hquote, List.all_eq_true.1 (by decide), by rintro c ⟨⟩; decide⟩
      have hreturn : '\r' ∉ 'u' :: Text.Quoted.encode value.toList := by
        simpa using not_mem_encode value.toList
      rw [hcode]
      exact scan_lexeme_of_not_mem ⟨'u', rfl, by decide⟩ hreturn
        (hbegins.next? (string?_marked hstring)) rfl

/-! ## Rows -/

theorem getLast?_of_isQuoted (h : Term.isQuoted s = true) : s.getLast? ≠ some '\r' := by
  obtain ⟨quote, r, -, hquote, hlast⟩ := exists_of_isQuoted h
  rw [hlast, ne_eq, Option.some.injEq]
  exact (ne_of_quote hquote (by decide)).symm

/-- Whether a text of strings ends inside a remark. -/
def LeavesRemark (s : List Char) : Prop :=
  ∃ ls tail, IsRow ls (normalizeLines s) tail ∧ IsRemark tail

/-- A text in quotes that writes a literal is a row of strings that make it, perhaps with a remark
behind it. -/
theorem exists_isRow {l : Literal} (hquoted : Term.isQuoted s = true)
    (h : Expr.ofText? s = some (.literal l)) :
    ∃ q qs tail, joinStrings q qs = some l ∧ IsRow (q :: qs) (normalizeLines s) tail ∧
      (tail = [] ∨ IsRemark tail) := by
  obtain ⟨quote, s, rfl, hquote, hlast⟩ := exists_of_isQuoted hquoted
  have hbegins := beginsLexeme_of_quote hquote
  have hreturn : quote ≠ '\r' := (ne_of_quote hquote (by decide)).symm
  have hline : quote ≠ '\n' := (ne_of_quote hquote (by decide)).symm
  have hends : EndsQuoted (normalizeLines (quote :: s)) := by
    intro c hc
    rw [getLast?_normalizeLines hreturn hline hlast] at hc
    cases hc
    exact hquote
  rw [Expr.ofText?, ofText_eq_scan hbegins] at h
  obtain ⟨ks, hks, h⟩ := Option.bind_eq_some_iff.1 h
  obtain ⟨⟨e, rest⟩, hwhole, heq⟩ := Option.bind_eq_some_iff.1 h
  cases heq
  rw [normalizeLines_cons hreturn] at hks hends ⊢
  obtain ⟨k, t, stack', ks', hnext, -, -, -, rfl⟩ := exists_of_scan_lexeme hbegins.1
    (fun hmark => hbegins.2 (by simp at hmark ⊢; tauto)) hks
  rw [next?_quote hquote] at hnext
  obtain ⟨⟨q, t'⟩, -, heq⟩ := Option.map_eq_some_iff.1 hnext
  cases heq
  obtain ⟨qs, rfl, hjoin⟩ := exists_row_of_whole hwhole
  obtain ⟨hnil, -⟩ | ⟨gap, row, tail, hsplit, hgap, hrow, htail⟩ :=
    isRow_of_scan _ (q :: qs) hks hends
  · cases hnil
  · -- nothing stands in front of the first quote
    cases hgap with
    | nil =>
        rw [hsplit]
        exact ⟨q, qs, tail, hjoin, hrow, htail⟩
    | blank hblank =>
        obtain ⟨rfl, -⟩ := List.cons.inj hsplit
        rw [hbegins.1] at hblank
        cases hblank
    | continued =>
        obtain ⟨rfl, -⟩ := List.cons.inj hsplit
        exact absurd hbegins (by decide)

/-- A row without a remark behind it is read as its strings. -/
theorem IsRow.readsAs {qs : List Literal} (h : IsRow qs (normalizeLines s) [])
    (hlast : s.getLast? ≠ some '\r') : ReadsAs 0 s (qs.map .string) := by
  intro stack rest _ hrest
  rw [normalizeLines_append hlast]
  exact h.scan fun _ => hrest.normalizeLines.not_quote

/-- What stands behind a text that leaves a remark open belongs to the remark, up to the end of its
line. -/
theorem LeavesRemark.exists_scan (h : LeavesRemark s) (hlast : s.getLast? ≠ some '\r')
    (hstack : stack ≠ []) : ∃ ls, ∀ rest, scan stack (normalizeLines (s ++ rest)) =
      (scan stack ((normalizeLines rest).dropWhile (· != '\n'))).map (ls ++ ·) := by
  obtain ⟨qs, tail, hrow, hremark⟩ := h
  refine ⟨qs.map .string, fun rest => ?_⟩
  have hne : tail ≠ [] := by
    obtain ⟨lead, w, -, -, rfl⟩ := hremark
    simp
  rw [normalizeLines_append hlast, hrow.scan fun hnil => absurd hnil hne,
    hremark.scan hstack]

/-- Whether no line ends in a text. -/
def IsOneLine (s : List Char) : Prop := '\n' ∉ s ∧ '\r' ∉ s

instance (s : List Char) : Decidable (IsOneLine s) := inferInstanceAs (Decidable (_ ∧ _))

theorem IsOneLine.append (hs : IsOneLine s) (hback : IsOneLine back) : IsOneLine (s ++ back) := by
  simp only [IsOneLine, List.mem_append, not_or]
  exact ⟨⟨hs.1, hback.1⟩, hs.2, hback.2⟩

/-- In brackets, with no line end behind it, such a text leaves the brackets open. -/
theorem LeavesRemark.ofText_eq_none (h : LeavesRemark s) (hlast : s.getLast? ≠ some '\r')
    (hfront : Arrives front ks stack) (hstack : stack ≠ []) (hback : IsOneLine back) :
    ofText (front ++ s ++ back) = none := by
  obtain ⟨ls, hscan⟩ := h.exists_scan hlast hstack
  have hdrop : (normalizeLines back).dropWhile (· != '\n') = [] := by
    rw [normalizeLines_of_not_mem hback.2, ← List.append_nil back, dropWhile_line hback.1]
    rfl
  have hnone : scan stack [] = none := by
    rw [Lexeme.scan]
    simp [hstack]
  rw [List.append_assoc, hfront.ofText_append, hscan, hdrop, hnone]
  rfl

theorem arrives_open : Arrives ['('] [.op "("] [")"] where
  ofText_append s := (ofText_eq_scan (by decide) s).trans (scan_open (by decide))
  hasRoom := by decide

/-- What writes a literal leaves a remark open if it cannot be put in parentheses. -/
theorem leavesRemark_iff {l : Literal} (hquoted : Term.isQuoted s = true)
    (h : Expr.ofText? s = some (.literal l)) :
    LeavesRemark s ↔ ofText ('(' :: (s ++ [')'])) = none := by
  have hlast := getLast?_of_isQuoted hquoted
  constructor
  · intro hremark
    exact hremark.ofText_eq_none hlast arrives_open (by simp) (by decide)
  · intro hnone
    obtain ⟨q, qs, tail, -, hrow, rfl | htail⟩ := exists_isRow hquoted h
    · have hread := (hrow.readsAs hlast).ofText arrives_open (breaks_cons (c := ')') (by decide) [])
      rw [scan_close, normalizeLines, scan_nil] at hread
      cases hnone.symm.trans hread
    · exact ⟨_, _, hrow, htail⟩

/-- The lexer goes through a row of strings as it goes through the plain code of the string. -/
theorem isSome_ofText_row {l : Literal} {qs : List Literal}
    (hcode : ReadsAs 0 code (qs.map .string)) (hplain : ReadsAs 0 code' [.string l])
    (hfront : Arrives front ks stack) (hback : Breaks back) :
    (ofText (front ++ code ++ back)).isSome = (ofText (front ++ code' ++ back)).isSome := by
  rw [hcode.ofText hfront hback, hplain.ofText hfront hback, Option.isSome_map, Option.isSome_map]

end Lexeme

/-- **A row of strings is read like the plain code of the string that they make**, wherever it
stands. -/
theorem Expr.ofText?_row {front code code' back : List Char} {ks : List Lexeme}
    {stack : List String} {q l : Literal} {qs : List Literal} {e : Expr}
    (hjoin : joinStrings q qs = some l) (hcode : ReadsAs 0 code ((q :: qs).map .string))
    (hplain : ReadsAs 0 code' [.string l]) (hfront : Arrives front ks stack) (hback : Breaks back)
    (h : Expr.ofText? (front ++ code' ++ back) = some e) :
    Expr.ofText? (front ++ code ++ back) = some e := by
  have hrow := hcode.ofText hfront hback
  have hstring := hplain.ofText hfront hback
  -- If what follows has no lexemes, then neither text has.
  cases hrest : scan stack (normalizeLines back) with
  | none =>
      rw [hrest] at hstring
      rw [Expr.ofText?, hstring] at h
      cases h
  | some ls =>
      rw [hrest] at hrow hstring
      refine Expr.ofText?_of_alike hstring hrow ((alike_row hjoin ls).symm.append ks) ?_ h
      simp only [List.length_append, List.length_map, List.length_cons, List.length_nil]
      omega

end Curly
