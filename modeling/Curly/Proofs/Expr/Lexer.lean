import Curly.Proofs.Expr.Quoted
import Curly.Proofs.Term.Simple
import Curly.Proofs.Text.Ascii
import Mathlib.Data.List.TakeDrop
import Mathlib.Data.List.TakeWhile

/-!
How the lexer goes through code piece by piece. A word, a number or a string ends where a bracket, a
mark or a blank follows it, so pieces that are put together with such marks between them are read
one by one. What the lexer goes through is told from the end: it goes through a piece and what
follows it if it goes through what follows it.
-/

namespace Curly.Lexeme

open Text.Unicode

/-! ## Line ends -/

@[simp]
theorem normalizeLines_cons {c : Char} (hc : c ≠ '\r') (s : List Char) :
    normalizeLines (c :: s) = c :: normalizeLines s := by
  rw [normalizeLines]
  · intro t hreturn
    exact absurd hreturn hc
  · exact hc

theorem normalizeLines_append {a b : List Char} (h : a.getLast? ≠ some '\r') :
    normalizeLines (a ++ b) = normalizeLines a ++ normalizeLines b := by
  fun_induction normalizeLines a with
  | case1 => rfl
  | case2 s ih =>
      have hs : s.getLast? ≠ some '\r' := by
        intro hs
        simp [List.getLast?_cons, hs] at h
      simp only [List.cons_append, normalizeLines, ih hs]
  | case3 s hs ih =>
      -- a carriage return that no line feed follows: not even one from behind `a`
      cases s with
      | nil => simp at h
      | cons d t =>
          have hd : d ≠ '\n' := fun hd => hs t (congrArg (· :: t) hd)
          rw [List.cons_append, normalizeLines, ih (by simpa using h), List.cons_append]
          intro u hu
          exact hd (List.cons.inj hu).1
  | case4 c s hpair hc ih =>
      have hs : s.getLast? ≠ some '\r' := by
        intro hs
        simp [List.getLast?_cons, hs] at h
      rw [List.cons_append, normalizeLines_cons hc, ih hs, List.cons_append]

/-- Code without carriage returns keeps its line ends. -/
theorem normalizeLines_of_not_mem {a : List Char} (h : '\r' ∉ a) : normalizeLines a = a := by
  induction a with
  | nil => rfl
  | cons c a ih =>
      rw [List.mem_cons, not_or] at h
      rw [normalizeLines_cons (Ne.symm h.1), ih h.2]

/-! ## Single lexemes -/

/-- Whether a character begins a lexeme: it is no blank, and starts neither a comment nor a line. -/
def BeginsLexeme (c : Char) : Prop := isBlank c = false ∧ c ∉ ['#', '\n', '\r', '\\']

instance (c : Char) : Decidable (BeginsLexeme c) := inferInstanceAs (Decidable (_ ∧ _))

/-- A lexeme is next where there is neither a blank nor a remark, a line end or a backslash. -/
theorem scan_other {c : Char} (hblank : isBlank c = false) (hmark : c ∉ ['#', '\n', '\\'])
    (stack : List String) (s : List Char) :
    scan stack (c :: s) = (next? (c :: s)).bind fun (l, rest) =>
      if rest.length < (c :: s).length then
        (brackets? stack l).bind fun stack => (scan stack rest).map (l :: ·)
      else none := by
  simp only [List.mem_cons, List.not_mem_nil, or_false, not_or] at hmark
  obtain ⟨hhash, hline, hslash⟩ := hmark
  rw [scan.eq_def]
  dsimp only
  rw [if_neg (by simp [hblank]), if_neg (by simpa using hhash), if_neg (by simpa using hline),
    if_neg (by simpa using hslash)]
  cases next? (c :: s) with
  | none => rfl
  | some found =>
      obtain ⟨l, rest⟩ := found
      dsimp only [Option.bind_some]
      split
      · refine congrArg _ (funext fun stack => ?_)
        cases scan stack rest <;> rfl
      · rfl

theorem scan_next {stack stack' : List String} {c : Char} {t rest : List Char} {l : Lexeme}
    (hc : BeginsLexeme c) (hnext : next? (c :: t) = some (l, rest))
    (hlt : rest.length < (c :: t).length) (hstack : brackets? stack l = some stack') :
    scan stack (c :: t) = (scan stack' rest).map (l :: ·) := by
  obtain ⟨hblank, hmark⟩ := hc
  simp only [List.mem_cons, List.not_mem_nil, or_false, not_or] at hmark
  obtain ⟨hhash, hline, -, hslash⟩ := hmark
  rw [scan_other hblank (by simp [hhash, hline, hslash]), hnext, Option.bind_some]
  dsimp only
  rw [if_pos hlt, hstack, Option.bind_some]

theorem scan_blank (stack : List String) (t : List Char) :
    scan stack (' ' :: t) = scan stack t := by
  rw [scan.eq_def]
  exact if_pos (by decide)

theorem scan_nil : scan [] [] = some [] := by
  rw [scan]
  rfl

/-- No idle lines are in front of code that begins with neither a blank nor a remark. -/
theorem ofText_cons {c : Char} (hblank : isBlank c = false) (hmark : c ∉ ['#', '\n', '\r'])
    (s : List Char) : ofText (c :: s) = scan [] (normalizeLines (c :: s)) := by
  simp only [List.mem_cons, List.not_mem_nil, or_false, not_or] at hmark
  obtain ⟨hhash, hline, hreturn⟩ := hmark
  obtain ⟨line, lines, hlines⟩ := List.exists_cons_of_ne_nil
    (List.splitOn_ne_nil '\n' (normalizeLines s))
  have hsplit : (normalizeLines (c :: s)).splitOn '\n' = (c :: line) :: lines := by
    rw [normalizeLines_cons hreturn, List.splitOn_cons_eq_if_modifyHead, hlines,
      if_neg (by simpa using hline)]
    rfl
  -- The first line holds code, so no line is dropped.
  have hidle : isIdleLine (c :: line) = false := by
    rw [isIdleLine, List.dropWhile_cons_of_neg (by simp [hblank])]
    exact beq_false_of_ne hhash
  rw [ofText, hsplit, dropIdleLines, hidle, if_neg Bool.false_ne_true]
  dsimp only
  rw [← hsplit, List.intercalate_splitOn, if_neg (by simp [hblank])]

theorem ofText_eq_scan {c : Char} (hc : BeginsLexeme c) (s : List Char) :
    ofText (c :: s) = scan [] (normalizeLines (c :: s)) := by
  obtain ⟨hblank, hmark⟩ := hc
  refine ofText_cons hblank (fun h => hmark ?_) s
  simp only [List.mem_cons, List.not_mem_nil, or_false] at h ⊢
  tauto

/-- Whether the lexer goes through code, given the brackets that are open before it. -/
def Goes (stack : List String) (s : List Char) : Prop := (scan stack (normalizeLines s)).isSome

/-- The marks that stand behind words, numbers and strings in generated code. -/
def marks : List Char := ['(', ')', '[', ']', ',', ':', ' ']

/-- Whether a word, a number or a string ends before some code. -/
def Breaks (s : List Char) : Prop := ∀ c ∈ s.head?, c ∈ marks

theorem breaks_nil : Breaks [] := nofun

theorem breaks_cons {c : Char} (hc : c ∈ marks) (s : List Char) : Breaks (c :: s) := by
  intro d hd
  cases hd
  exact hc

theorem Breaks.normalizeLines {s : List Char} (h : Breaks s) : Breaks (normalizeLines s) := by
  cases s with
  | nil => exact h
  | cons c s =>
      have hc : c ∈ marks := h c rfl
      have hreturn : c ≠ '\r' := by
        rintro rfl
        exact absurd hc (by decide)
      rw [normalizeLines_cons hreturn]
      exact breaks_cons hc _

/-- What is true of no mark is true of no character that follows a word, a number or a string. -/
theorem Breaks.head?_any {s : List Char} (h : Breaks s) {p : Char → Bool}
    (hp : marks.any p = false) : s.head?.any p = false := by
  cases s with
  | nil => rfl
  | cons c s => exact Bool.of_not_eq_true (List.any_eq_false.1 hp c (h c rfl))

/-- Whether code is read as lexemes wherever there is room for so many brackets, and a mark behind
it. -/
def ReadsAs (depth : Nat) (code : List Char) (ks : List Lexeme) : Prop :=
  ∀ ⦃stack : List String⦄ ⦃rest : List Char⦄, stack.length + depth ≤ bracketLimit → Breaks rest →
    scan stack (normalizeLines (code ++ rest)) =
      (scan stack (normalizeLines rest)).map (ks ++ ·)

theorem ReadsAs.mono {depth depth' : Nat} {code : List Char} {ks : List Lexeme}
    (h : ReadsAs depth code ks) (hle : depth ≤ depth') : ReadsAs depth' code ks :=
  fun _ _ hroom hrest => h (by omega) hrest

/-- Code by itself. -/
theorem ReadsAs.ofText_eq {code : List Char} {ks : List Lexeme} (h : ReadsAs 0 code ks)
    (hcode : ∃ c ∈ code.head?, BeginsLexeme c) : ofText code = some ks := by
  obtain ⟨c, hc, hbegins⟩ := hcode
  obtain ⟨s, rfl⟩ := List.head?_eq_some_iff.1 hc
  have hscan := @h [] [] (Nat.zero_le _) breaks_nil
  rw [List.append_nil, normalizeLines, scan_nil, Option.map_some, List.append_nil] at hscan
  rw [ofText_eq_scan hbegins, hscan]

theorem goes_nil : Goes [] [] := by
  rw [Goes, normalizeLines, scan_nil]
  rfl

theorem scan_normalizeLines_blank (stack : List String) (rest : List Char) :
    scan stack (normalizeLines (' ' :: rest)) = scan stack (normalizeLines rest) := by
  rw [normalizeLines_cons (by decide), scan_blank]

theorem goes_blank {stack : List String} {rest : List Char} (h : Goes stack rest) :
    Goes stack (' ' :: rest) := by
  rw [Goes, scan_normalizeLines_blank]
  exact h

variable {stack stack' : List String} {code rest : List Char} {l : Lexeme}

/-- One lexeme is read, and then what follows it. -/
theorem scan_lexeme (hcode : ∃ c ∈ code.head?, BeginsLexeme c) (hlast : code.getLast? ≠ some '\r')
    (hnext : next? (normalizeLines code ++ normalizeLines rest) = some (l, normalizeLines rest))
    (hstack : brackets? stack l = some stack') :
    scan stack (normalizeLines (code ++ rest)) =
      (scan stack' (normalizeLines rest)).map (l :: ·) := by
  obtain ⟨c, hhead, hc⟩ := hcode
  obtain ⟨code, rfl⟩ := List.head?_eq_some_iff.1 hhead
  have hreturn : c ≠ '\r' := by
    rintro rfl
    exact hc.2 (by decide)
  have hlt : (normalizeLines rest).length <
      (c :: (normalizeLines code ++ normalizeLines rest)).length := by
    simp only [List.length_cons, List.length_append]
    omega
  rw [normalizeLines_cons hreturn, List.cons_append] at hnext
  rw [normalizeLines_append hlast, normalizeLines_cons hreturn, List.cons_append,
    scan_next hc hnext hlt hstack]

/-- One lexeme in one line is read, and then what follows it. -/
theorem scan_lexeme_of_not_mem (hcode : ∃ c ∈ code.head?, BeginsLexeme c) (hreturn : '\r' ∉ code)
    (hnext : next? (code ++ normalizeLines rest) = some (l, normalizeLines rest))
    (hstack : brackets? stack l = some stack') :
    scan stack (normalizeLines (code ++ rest)) =
      (scan stack' (normalizeLines rest)).map (l :: ·) := by
  refine scan_lexeme hcode (fun hlast => hreturn (List.mem_of_getLast? hlast)) ?_ hstack
  rw [normalizeLines_of_not_mem hreturn]
  exact hnext

/-- The same for one character. -/
theorem scan_mark {c : Char} (hc : BeginsLexeme c)
    (hnext : next? (c :: normalizeLines rest) = some (l, normalizeLines rest))
    (hstack : brackets? stack l = some stack') :
    scan stack (normalizeLines (c :: rest)) =
      (scan stack' (normalizeLines rest)).map (l :: ·) := by
  have hhead : ∃ d ∈ [c].head?, BeginsLexeme d := ⟨c, rfl, hc⟩
  have hreturn : '\r' ∉ [c] := by
    rw [List.mem_singleton]
    rintro rfl
    exact hc.2 (by decide)
  exact scan_lexeme_of_not_mem hhead hreturn hnext hstack

theorem goes_mark {c : Char} (hc : BeginsLexeme c)
    (hnext : next? (c :: normalizeLines rest) = some (l, normalizeLines rest))
    (hstack : brackets? stack l = some stack') (h : Goes stack' rest) : Goes stack (c :: rest) := by
  rw [Goes, scan_mark hc hnext hstack, Option.isSome_map]
  exact h

/-! ### Marks -/

theorem scan_open (hroom : stack.length < bracketLimit) :
    scan stack (normalizeLines ('(' :: rest)) =
      (scan (")" :: stack) (normalizeLines rest)).map (.op "(" :: ·) := by
  refine scan_mark (by decide) rfl ?_
  simp [brackets?, closerOf, hroom]

theorem goes_open (hroom : stack.length < bracketLimit) (h : Goes (")" :: stack) rest) :
    Goes stack ('(' :: rest) := by
  rw [Goes, scan_open hroom, Option.isSome_map]
  exact h

theorem not_goes_open (hfull : bracketLimit ≤ stack.length) : ¬Goes stack ('(' :: rest) := by
  have hnext (s : List Char) : next? ('(' :: s) = some (.op "(", s) := rfl
  have hstack : brackets? stack (.op "(") = none := if_neg (Nat.not_lt.2 hfull)
  rw [Goes, normalizeLines_cons (by decide), scan.eq_def]
  simp [isBlank, hnext, hstack]

theorem scan_close :
    scan (")" :: stack) (normalizeLines (')' :: rest)) =
      (scan stack (normalizeLines rest)).map (.op ")" :: ·) :=
  scan_mark (by decide) rfl rfl

theorem goes_close (h : Goes stack rest) : Goes (")" :: stack) (')' :: rest) := by
  rw [Goes, scan_close, Option.isSome_map]
  exact h

theorem goes_openSquare (hroom : stack.length < bracketLimit) (h : Goes ("]" :: stack) rest) :
    Goes stack ('[' :: rest) := by
  refine goes_mark (l := .op "[") (by decide) rfl ?_ h
  simp [brackets?, closerOf, hroom]

theorem goes_closeSquare (h : Goes stack rest) : Goes ("]" :: stack) (']' :: rest) :=
  goes_mark (l := .op "]") (by decide) rfl rfl h

theorem scan_comma :
    scan stack (normalizeLines (',' :: rest)) =
      (scan stack (normalizeLines rest)).map (.op "," :: ·) :=
  scan_mark (by decide) rfl rfl

theorem goes_comma (h : Goes stack rest) : Goes stack (',' :: rest) := by
  rw [Goes, scan_comma, Option.isSome_map]
  exact h

theorem goes_colon : Goes [] [':'] := goes_mark (l := .op ":") (by decide) rfl rfl goes_nil

theorem goes_equals (h : Goes stack rest) : Goes stack ('=' :: ' ' :: rest) := by
  refine goes_mark (l := .op "=") (by decide) ?_ rfl (goes_blank h)
  rw [normalizeLines_cons (by decide)]
  rfl

/-- A sign in front of a character that makes no other operator with it. -/
theorem next?_minus (hrest : ∀ c ∈ rest.head?, c.isAlphanum) :
    next? ('-' :: rest) = some (.op "-", rest) := by
  cases rest with
  | nil => rfl
  | cons c rest =>
      have hc : c.isAlphanum := hrest c rfl
      -- The longer operators that begin with the sign go on with one of these two.
      have hequals : ('=' == c) = false := by
        rw [beq_eq_false_iff_ne]
        rintro rfl
        exact absurd hc (by decide)
      have harrow : ('>' == c) = false := by
        rw [beq_eq_false_iff_ne]
        rintro rfl
        exact absurd hc (by decide)
      simp [next?, symbols, List.isPrefixOf, hequals, harrow, isNameChar]
      rfl

theorem scan_minus (hrest : ∀ c ∈ rest.head?, c.isAlphanum) :
    scan stack (normalizeLines ('-' :: rest)) =
      (scan stack (normalizeLines rest)).map (.op "-" :: ·) := by
  refine scan_mark (by decide) (next?_minus ?_) rfl
  cases rest with
  | nil => exact nofun
  | cons c rest =>
      have hc : c.isAlphanum := hrest c rfl
      have hreturn : c ≠ '\r' := by
        rintro rfl
        exact absurd hc (by decide)
      rw [normalizeLines_cons hreturn]
      exact hrest

/-! ### Numbers and marks -/

theorem next?_number {c : Char} {s : List Char}
    (h : (c.isDigit || (c == '.' && s.head?.any Char.isDigit)) = true) :
    next? (c :: s) = (number? (c :: s)).map fun (n, rest) => (.number n, rest) := by
  rw [next?, if_pos h]

theorem next?_mark {c : Char} {s : List Char}
    (hnumber : ¬(c.isDigit || (c == '.' && s.head?.any Char.isDigit)) = true)
    (hquote : c ≠ '\'' ∧ c ≠ '"') (hc : isNameChar c = false) :
    next? (c :: s) = (symbols.find? fun w => w.toList.isPrefixOf (c :: s)).map fun w =>
      (.op w, (c :: s).drop w.length) := by
  rw [next?, if_neg hnumber, if_neg (by simp [hquote]), if_neg (by simp [hc])]

/-! ### Words -/

/-- A letter, a digit or a low line, in ASCII. -/
def isPlainChar (c : Char) : Bool := c.isAlphanum || c == '_'

/-- A word in ASCII, which does not begin with a digit. -/
def isPlainWord : List Char → Bool
  | [] => false
  | c :: cs => isPlainChar c && !c.isDigit && cs.all isPlainChar

theorem toNat_lt_of_isPlainChar {c : Char} (h : isPlainChar c = true) : c.toNat < 128 := by
  rw [isPlainChar, Bool.or_eq_true, beq_iff_eq] at h
  obtain h | rfl := h
  · exact Text.toNat_lt_of_isAlphanum h
  · decide

theorem isNameChar_of_isPlainChar {c : Char} (h : isPlainChar c = true) : isNameChar c = true := by
  rw [isNameChar, Bool.or_eq_true]
  exact .inl h

theorem isName_of_isPlainWord {w : List Char} (h : isPlainWord w = true) : isName w = true := by
  cases w with
  | nil => cases h
  | cons c w =>
      rw [isPlainWord, Bool.and_eq_true, Bool.and_eq_true, Bool.not_eq_true'] at h
      obtain ⟨⟨hc, hdigit⟩, hw⟩ := h
      rw [isName, Bool.and_eq_true, List.all_eq_true]
      constructor
      · rw [isIdentifierStart, if_pos (toNat_lt_of_isPlainChar hc)]
        simpa [isPlainChar, Char.isAlphanum, hdigit] using hc
      · intro d hd
        have hd := List.all_eq_true.1 hw d hd
        rw [isIdentifierRest, if_pos (toNat_lt_of_isPlainChar hd)]
        exact hd

/-- A run of characters ends where one follows that is not of their kind. -/
theorem span_append {p : Char → Bool} {a b : List Char} (ha : ∀ c ∈ a, p c = true)
    (hb : b.head?.any p = false) : (a ++ b).span p = (a, b) := by
  rw [List.span_eq_takeWhile_dropWhile, List.takeWhile_append_of_pos ha,
    List.dropWhile_append_of_pos ha]
  cases b with
  | nil => simp
  | cons c b =>
      have hc : p c = false := hb
      simp [hc]

theorem isPlainChar_of_mem {w : List Char} (hw : isPlainWord w = true) :
    ∀ c ∈ w, isPlainChar c = true := by
  cases w with
  | nil => cases hw
  | cons c w =>
      rw [isPlainWord, Bool.and_eq_true, Bool.and_eq_true, List.all_eq_true] at hw
      obtain ⟨⟨hc, -⟩, hw⟩ := hw
      exact List.forall_mem_cons.2 ⟨hc, hw⟩

theorem isNameChar_of_mem {w : List Char} (hw : isPlainWord w = true) :
    ∀ c ∈ w, isNameChar c = true :=
  fun c hc => isNameChar_of_isPlainChar (isPlainChar_of_mem hw c hc)

theorem ne_nil_of_isPlainWord {w : List Char} (hw : isPlainWord w = true) : w ≠ [] := by
  rintro rfl
  cases hw

theorem not_isDigit_of_isPlainWord {w : List Char} (hw : isPlainWord w = true) :
    ∀ c ∈ w.head?, c.isDigit = false := by
  cases w with
  | nil => cases hw
  | cons c w =>
      rw [isPlainWord, Bool.and_eq_true, Bool.and_eq_true, Bool.not_eq_true'] at hw
      rintro d ⟨⟩
      exact hw.1.2

theorem ne_of_isNameChar {c : Char} (h : isNameChar c = true) {d : Char}
    (hd : isNameChar d = false) : c ≠ d := by
  rintro rfl
  rw [h] at hd
  cases hd

theorem beginsLexeme_of_isNameChar {c : Char} (h : isNameChar c = true) : BeginsLexeme c := by
  have hne {d : Char} (hd : isNameChar d = false) : c ≠ d := ne_of_isNameChar h hd
  constructor
  · simp [isBlank, hne (d := ' ') (by decide), hne (d := '\t') (by decide),
      hne (d := '\x0c') (by decide)]
  · simp [hne (d := '#') (by decide), hne (d := '\n') (by decide), hne (d := '\r') (by decide),
      hne (d := '\\') (by decide)]

/-- The lexeme of a word that is no prefix of a string. -/
def ofName? (word : List Char) : Option Lexeme :=
  if !isName word then none
  else
    let id := String.ofList word
    some (if keywords.contains id then .keyword id else .name (String.ofList (normalName word)))

/-- The lexeme of a word, with a string behind it if it is the prefix of one. -/
def ofSpan? (word rest : List Char) : Option (Lexeme × List Char) :=
  if rest.head?.any (fun q => q == '\'' || q == '"') && (stringPrefix? word).isSome then
    (string? word rest).map fun (l, rest) => (.string l, rest)
  else (ofName? word).map fun l => (l, rest)

theorem next?_name {c : Char} {s : List Char} (hdigit : c.isDigit = false)
    (hc : isNameChar c = true) :
    next? (c :: s) = ofSpan? ((c :: s).takeWhile isNameChar) ((c :: s).dropWhile isNameChar) := by
  have hpoint : (c == '.') = false := beq_false_of_ne (ne_of_isNameChar hc (by decide))
  have hsingle : (c == '\'') = false := beq_false_of_ne (ne_of_isNameChar hc (by decide))
  have hdouble : (c == '"') = false := beq_false_of_ne (ne_of_isNameChar hc (by decide))
  simp only [next?, hdigit, hpoint, hsingle, hdouble, hc, List.span_eq_takeWhile_dropWhile,
    Bool.false_and, Bool.or_self, Bool.false_eq_true, if_false, if_true, ofSpan?, ofName?,
    apply_ite (Option.map _), Option.map_none, Option.map_some]

/-- A word ends where no other character of a name follows it. -/
theorem next?_append {w : List Char} (hne : w ≠ []) (hdigit : ∀ c ∈ w.head?, c.isDigit = false)
    (hchars : ∀ c ∈ w, isNameChar c = true) (hend : rest.head?.any isNameChar = false) :
    next? (w ++ rest) = ofSpan? w rest := by
  obtain ⟨c, w, rfl⟩ := List.exists_cons_of_ne_nil hne
  have hspan := span_append hchars hend
  rw [List.span_eq_takeWhile_dropWhile, Prod.mk.injEq, List.cons_append] at hspan
  rw [List.cons_append, next?_name (hdigit c rfl) (hchars c List.mem_cons_self), hspan.1, hspan.2]

theorem ofName?_ne_string (word : List Char) (l : Literal) : ofName? word ≠ some (.string l) := by
  rw [ofName?]
  dsimp only
  split
  · nofun
  · split
    · nofun
    · nofun

/-- The lexeme of a word of generated code. -/
def ofWord (w : List Char) : Lexeme :=
  if keywords.contains (String.ofList w) then .keyword (String.ofList w)
  else .name (String.ofList w)

theorem ofName?_plainWord {w : List Char} (hw : isPlainWord w = true) :
    ofName? w = some (ofWord w) := by
  have hnormal : normalName w = w :=
    normalName_of_ascii fun c hc => toNat_lt_of_isPlainChar (isPlainChar_of_mem hw c hc)
  rw [ofName?, isName_of_isPlainWord hw, hnormal]
  rfl

/-- A word is one lexeme, if neither another character of a name nor a quote follows it. -/
theorem next?_plainWord {w : List Char} (hw : isPlainWord w = true)
    (hend : rest.head?.any isNameChar = false)
    (hquote : rest.head?.any (fun q => q == '\'' || q == '"') = false) :
    next? (w ++ rest) = some (ofWord w, rest) := by
  rw [next?_append (ne_nil_of_isPlainWord hw) (not_isDigit_of_isPlainWord hw)
    (isNameChar_of_mem hw) hend, ofSpan?, hquote, ofName?_plainWord hw]
  rfl

/-- A word of generated code is one lexeme. -/
theorem next?_word {w : List Char} (hw : isPlainWord w = true) (hrest : Breaks rest) :
    next? (w ++ rest) = some (ofWord w, rest) :=
  next?_plainWord hw (hrest.head?_any (by decide)) (hrest.head?_any (by decide))

theorem scan_word {w : List Char} (hw : isPlainWord w = true) (hrest : Breaks rest) :
    scan stack (normalizeLines (w ++ rest)) =
      (scan stack (normalizeLines rest)).map (ofWord w :: ·) := by
  have hchars := isNameChar_of_mem hw
  have hreturn : '\r' ∉ w := fun hmem => absurd (hchars _ hmem) (by decide)
  have hbegin : ∃ c ∈ w.head?, BeginsLexeme c := by
    cases w with
    | nil => cases hw
    | cons c w => exact ⟨c, rfl, beginsLexeme_of_isNameChar (hchars c List.mem_cons_self)⟩
  refine scan_lexeme_of_not_mem hbegin hreturn (next?_word hw hrest.normalizeLines) ?_
  rw [ofWord]
  split
  · rfl
  · rfl

theorem readsAs_word {w : List Char} (hw : isPlainWord w = true) : ReadsAs 0 w [ofWord w] :=
  fun _ _ _ hrest => scan_word hw hrest

theorem goes_word {w : List Char} (hw : isPlainWord w = true) (hrest : Breaks rest)
    (h : Goes stack rest) : Goes stack (w ++ rest) := by
  rw [Goes, scan_word hw hrest, Option.isSome_map]
  exact h

/-! ### Strings -/

theorem next?_quote {quote : Char} (hquote : quote = '\'' ∨ quote = '"') (s : List Char) :
    next? (quote :: s) = (string? [] (quote :: s)).map fun (l, rest) => (.string l, rest) := by
  obtain rfl | rfl := hquote
  · simp [next?]
  · simp [next?]

theorem beginsLexeme_of_quote {quote : Char} (hquote : quote = '\'' ∨ quote = '"') :
    BeginsLexeme quote := by
  obtain rfl | rfl := hquote
  · decide
  · decide

/-- What is behind a string begins with no quote. -/
theorem Breaks.not_quote {s : List Char} (h : Breaks s) : ∀ c ∈ s.head?, c ≠ '\'' ∧ c ≠ '"' := by
  intro c hc
  have hany := h.head?_any (p := fun q => q == '\'' || q == '"') (by decide)
  rw [Option.mem_def.1 hc] at hany
  simpa using hany

open Text.Quoted in
theorem not_mem_encodeChar {quote : Char} (hquote : quote = '\'' ∨ quote = '"') (c : Char) :
    '\r' ∉ encodeChar quote c := by
  have hquote : '\r' ≠ quote := ne_of_quote hquote (by decide)
  -- a letter behind a backslash, the character itself, or its number
  obtain ⟨d, hd, hc⟩ | ⟨hd, -, hc⟩ | hd := encodeChar_cases quote c
  · have hne : '\r' ≠ d := by
      rintro rfl
      obtain ⟨rfl, rfl | hslash⟩ | hc := hc
      · exact hquote rfl
      · exact absurd hslash (by decide)
      · simp at hc
    simp [hd, hne]
  · simpa [hd] using hc.symm
  · obtain ⟨mark, width, hcode, hmark, hlt⟩ := exists_byCode c
    have hdigits : '\r' ∉ hex (width + 1) c.toNat := by
      intro hmem
      have hne : ∀ k < 16, '\r' ≠ k.digitChar := by decide
      obtain ⟨k, hk, heq⟩ := exists_of_mem_hex hlt hmem
      exact hne k hk heq
    have hne : '\r' ≠ mark := by
      obtain ⟨rfl, -⟩ | ⟨rfl, -⟩ | ⟨rfl, -⟩ := hmark
      all_goals decide
    simp [hd, hcode, hdigits, hne]

open Text.Quoted in
theorem not_mem_encode (s : List Char) : '\r' ∉ encode s := by
  have hquote := quoteFor_eq s
  rw [encode]
  generalize quoteFor s = quote at hquote ⊢
  have hne : '\r' ≠ quote := ne_of_quote hquote (by decide)
  simp [hne, not_mem_encodeChar hquote]

/-- The code of a string is one lexeme. -/
theorem scan_encode (s : String) (hrest : Breaks rest) :
    scan stack (normalizeLines ((Text.Quoted.ofString s).toList ++ rest)) =
      (scan stack (normalizeLines rest)).map (.string (.str s false) :: ·) := by
  have hstring := string?_encode s.toList hrest.normalizeLines.not_quote
  have hquote := Text.Quoted.quoteFor_eq s.toList
  rw [String.ofList_toList] at hstring
  rw [Text.Quoted.ofString, String.toList_ofList]
  refine scan_lexeme_of_not_mem ⟨_, rfl, beginsLexeme_of_quote hquote⟩ (not_mem_encode _) ?_ rfl
  exact (next?_quote hquote _).trans (congrArg (Option.map _) hstring)

theorem goes_encode (s : String) (hrest : Breaks rest) (h : Goes stack rest) :
    Goes stack ((Text.Quoted.ofString s).toList ++ rest) := by
  rw [Goes, scan_encode s hrest, Option.isSome_map]
  exact h

theorem readsAs_encode (s : String) :
    ReadsAs 0 (Text.Quoted.ofString s).toList [.string (.str s false)] :=
  fun _ _ _ hrest => scan_encode s hrest

/-- What stands in quotes begins and ends with the same one. -/
theorem exists_of_isQuoted (h : Term.isQuoted code = true) : ∃ quote s, code = quote :: s ∧
    (quote = '\'' ∨ quote = '"') ∧ code.getLast? = some quote := by
  match code with
  | [] | [_] => cases h
  | quote :: c :: s =>
      rw [Term.isQuoted, Bool.and_eq_true, beq_iff_eq, Bool.or_eq_true, beq_iff_eq,
        beq_iff_eq] at h
      exact ⟨quote, c :: s, rfl, h⟩

/-- A string that its author wrote is one lexeme. -/
theorem exists_readsAs_string (hcode : isString code = true) (hquoted : Term.isQuoted code = true) :
    ∃ l, ReadsAs 0 code [.string l] := by
  obtain ⟨quote, s, rfl, hquote, hlast⟩ := exists_of_isQuoted hquoted
  have hreturn : quote ≠ '\r' := (ne_of_quote hquote (by decide)).symm
  -- the author may have put line ends into the string; they are normalized in it and behind it
  rw [isString, normalizeLines_cons hreturn] at hcode
  split at hcode
  · rename_i l hstring
    refine ⟨l, fun stack rest _ hrest => ?_⟩
    have hhead : ∀ c ∈ (normalizeLines rest).head?, c ≠ quote :=
      fun c hc => ne_of_quote hquote (hrest.normalizeLines.not_quote c hc)
    refine scan_lexeme ⟨quote, rfl, beginsLexeme_of_quote hquote⟩ ?_ ?_ rfl
    · rw [hlast]
      simpa using hreturn
    · rw [normalizeLines_cons hreturn, List.cons_append, next?_quote hquote, ← List.cons_append,
        string?_append_rest hstring fun _ => hhead, List.nil_append]
      rfl
  · cases hcode

end Curly.Lexeme
