import Curly.Proofs.Expr.Adjacent
import Curly.Proofs.Expr.Lexer

/-!
Dotted names. Words with dots between them are read one by one, and the parser makes a chain of
attributes of them. The lexer stops at a dollar sign in a word, and the parser at a reserved word,
unless this is a constant in front of all dots; such texts write no expression.
-/

namespace Curly

/-- What stands behind the first of some words with dots between them. -/
def Text.afterDots (ws : List (List Char)) : List Char := ws.flatMap ('.' :: ·)

/-- A word and more words, with dots between them. -/
def Text.dotted (w : List Char) (ws : List (List Char)) : List Char := w ++ afterDots ws

theorem Text.toList_intercalate_dot (w : String) (ws : List String) :
    (String.intercalate "." (w :: ws)).toList = dotted w.toList (ws.map String.toList) := by
  induction ws generalizing w with
  | nil => simp [dotted, afterDots]
  | cons v ws ih =>
      rw [String.intercalate_cons_cons, String.toList_append, ih]
      simp [dotted, afterDots]

namespace Lexeme

open Text (dotted)

variable {stack : List String} {rest : List Char} {v w : List Char} {ws : List (List Char)}

/-! ## The lexer -/

/-- The lexemes of what stands behind the first of some words with dots between them. -/
def ofDots (ws : List (List Char)) : List Lexeme := ws.flatMap fun v => [.op ".", ofWord v]

theorem brackets?_ofWord (stack : List String) (w : List Char) :
    brackets? stack (ofWord w) = some stack := by
  rw [ofWord]
  split
  · rfl
  · rfl

/-- A dot is a lexeme in front of what makes no number and no dots with it. -/
theorem scan_dot (hrest : ∀ c ∈ rest.head?, c ≠ '.' ∧ c.isDigit = false) :
    scan stack ('.' :: rest) = (scan stack rest).map (.op "." :: ·) := by
  have hnext : next? ('.' :: rest) = some (.op ".", rest) := by
    cases rest with
    | nil => rfl
    | cons c rest =>
        obtain ⟨hdot, hdigit⟩ := hrest c rfl
        have hne : ('.' == c) = false := beq_false_of_ne hdot.symm
        simp [next?, symbols, List.isPrefixOf, hdigit, hne, isNameChar]
        rfl
  exact scan_next (by decide) hnext (Nat.lt_succ_self _) rfl

/-- No lexeme begins with a dollar sign. -/
theorem scan_dollar (rest : List Char) : scan stack ('$' :: rest) = none := by
  have hnext : next? ('$' :: rest) = none := by
    simp [next?, symbols, List.isPrefixOf, isNameChar]
  rw [scan.eq_def]
  simp [isBlank, hnext]

/-- A word is read by itself where a dot, a dollar sign, a mark or nothing follows it. -/
theorem scan_wordBefore (hw : isPlainWord w = true)
    (hrest : ∀ c ∈ rest.head?, c ∈ '.' :: '$' :: marks) :
    scan stack (w ++ rest) = (scan stack rest).map (ofWord w :: ·) := by
  have hany {p : Char → Bool} (hp : ('.' :: '$' :: marks).any p = false) :
      rest.head?.any p = false := by
    cases rest with
    | nil => rfl
    | cons c rest => exact Bool.of_not_eq_true (List.any_eq_false.1 hp c (hrest c rfl))
  have hnext := next?_plainWord hw (hany (by decide)) (hany (by decide))
  have hchars := isNameChar_of_mem hw
  cases w with
  | nil => cases hw
  | cons c w =>
      have hlt : rest.length < (c :: (w ++ rest)).length := by
        rw [List.length_cons, List.length_append]
        omega
      exact scan_next (beginsLexeme_of_isNameChar (hchars c List.mem_cons_self)) hnext hlt
        (brackets?_ofWord stack _)

theorem head?_afterDots (ws : List (List Char)) : ∀ c ∈ (Text.afterDots ws).head?, c = '.' := by
  cases ws with
  | nil => exact nofun
  | cons v ws =>
      intro c hc
      exact (Option.some.inj hc).symm

/-- A word ends in front of dots, and in front of what stands behind them. -/
theorem head?_afterDots_append (ws : List (List Char)) (hrest : Breaks rest) :
    ∀ c ∈ (Text.afterDots ws ++ rest).head?, c ∈ '.' :: '$' :: marks := by
  cases ws with
  | nil => exact fun c hc => List.mem_cons_of_mem _ (List.mem_cons_of_mem _ (hrest c hc))
  | cons v ws =>
      intro c hc
      cases hc
      exact List.mem_cons_self

/-! ### Segments -/

open Form

/-- What begins a segment makes no number and no dots with a dot in front of it. -/
theorem head?_of_isSegment (hv : isSegment v = true) (rest : List Char) :
    ∀ c ∈ (v ++ rest).head?, c ≠ '.' ∧ c.isDigit = false := by
  cases v with
  | nil => cases hv
  | cons c v =>
      intro d hd
      obtain rfl := Option.some.inj hd
      rw [isSegment, Bool.and_eq_true, startsName, Bool.or_eq_true, Bool.or_eq_true, beq_iff_eq,
        beq_iff_eq] at hv
      obtain (hletter | rfl) | rfl := hv.1
      · refine ⟨?_, Text.isDigit_of_isAlpha hletter⟩
        rintro rfl
        cases hletter
      · decide
      · decide

/-- A segment without dollar signs is a word. -/
theorem isPlainWord_of_isSegment (hv : isSegment v = true) (hdollar : '$' ∉ v) :
    isPlainWord v = true := by
  cases v with
  | nil => cases hv
  | cons c v =>
      have hdigit := (head?_of_isSegment hv [] c rfl).2
      rw [List.mem_cons, not_or] at hdollar
      obtain ⟨hc, hdollar⟩ := hdollar
      have hne : (c == '$') = false := beq_false_of_ne (Ne.symm hc)
      -- both kinds of words begin with a letter or an underscore, once there is no dollar sign
      rw [isSegment, Bool.and_eq_true, startsName, hne, Bool.or_false, Bool.or_eq_true] at hv
      obtain ⟨hfirst, hrest⟩ := hv
      rw [isPlainWord, Bool.and_eq_true, Bool.and_eq_true, Bool.not_eq_true', isPlainChar,
        Char.isAlphanum, Bool.or_eq_true, Bool.or_eq_true]
      refine ⟨⟨hfirst.imp .inl id, hdigit⟩, ?_⟩
      rw [List.all_eq_true] at hrest ⊢
      intro d hd
      have hne : (d == '$') = false := by
        rw [beq_eq_false_iff_ne]
        rintro rfl
        exact hdollar hd
      simpa [isPlainChar, hne] using hrest d hd

/-- The lexer stops at the first dollar sign of a segment. -/
theorem scan_segment_dollar (hv : isSegment v = true) (hdollar : '$' ∈ v) (rest : List Char) :
    scan stack (v ++ rest) = none := by
  obtain ⟨p, q, rfl, hp⟩ := List.eq_append_cons_of_mem hdollar
  rw [List.append_assoc, List.cons_append]
  -- The word in front of the sign, if there is one, is read by itself.
  cases p with
  | nil => exact scan_dollar _
  | cons c p =>
      have hsegment : isSegment (c :: p) = true := by
        rw [List.cons_append, isSegment, Bool.and_eq_true, List.all_append, Bool.and_eq_true] at hv
        rw [isSegment, Bool.and_eq_true]
        exact ⟨hv.1, hv.2.1⟩
      rw [scan_wordBefore (isPlainWord_of_isSegment hsegment hp), scan_dollar]
      · rfl
      · intro d hd
        cases hd
        exact List.mem_cons_of_mem _ List.mem_cons_self

/-- Segments behind dots are read one by one. -/
theorem scan_afterDots (hws : ∀ v ∈ ws, isSegment v = true) (hdollar : ∀ v ∈ ws, '$' ∉ v)
    (hrest : Breaks rest) :
    scan stack (Text.afterDots ws ++ rest) = (scan stack rest).map (ofDots ws ++ ·) := by
  induction ws with
  | nil => exact Option.map_id'.symm
  | cons v ws ih =>
      obtain ⟨hv, hws⟩ := List.forall_mem_cons.1 hws
      obtain ⟨hplain, hdollar⟩ := List.forall_mem_cons.1 hdollar
      have hsplit : Text.afterDots (v :: ws) ++ rest =
          '.' :: (v ++ (Text.afterDots ws ++ rest)) := by
        rw [← List.append_assoc]
        rfl
      rw [hsplit, scan_dot (head?_of_isSegment hv _),
        scan_wordBefore (isPlainWord_of_isSegment hv hplain) (head?_afterDots_append ws hrest),
        ih hws hdollar, Option.map_map, Option.map_map]
      rfl

/-- Segments with dots between them are read one by one. -/
theorem scan_dotted (hw : isSegment w = true) (hws : ∀ v ∈ ws, isSegment v = true)
    (hdollar : ∀ v ∈ w :: ws, '$' ∉ v) (hrest : Breaks rest) :
    scan stack (dotted w ws ++ rest) =
      (scan stack rest).map (ofWord w :: ofDots ws ++ ·) := by
  obtain ⟨hplain, hdollar⟩ := List.forall_mem_cons.1 hdollar
  rw [dotted, List.append_assoc, scan_wordBefore (isPlainWord_of_isSegment hw hplain)
    (head?_afterDots_append ws hrest), scan_afterDots hws hdollar hrest, Option.map_map]
  rfl

/-- Segments with a dollar sign in one of them are not read. -/
theorem scan_afterDots_dollar (hws : ∀ v ∈ ws, isSegment v = true) (hdollar : ∃ v ∈ ws, '$' ∈ v) :
    scan [] (Text.afterDots ws) = none := by
  induction ws with
  | nil => simp at hdollar
  | cons v ws ih =>
      obtain ⟨hv, hws⟩ := List.forall_mem_cons.1 hws
      have hsplit : Text.afterDots (v :: ws) = '.' :: (v ++ Text.afterDots ws) := rfl
      rw [hsplit, scan_dot (head?_of_isSegment hv _)]
      -- Either the first segment holds the sign, or it is a plain word and a later one does.
      by_cases hmem : '$' ∈ v
      · rw [scan_segment_dollar hv hmem]
        rfl
      · have hrest := head?_afterDots_append ws breaks_nil
        rw [List.append_nil] at hrest
        have hlater : ∃ u ∈ ws, '$' ∈ u := by simpa [hmem] using hdollar
        rw [scan_wordBefore (isPlainWord_of_isSegment hv hmem) hrest, ih hws hlater]
        rfl

/-- The characters of segments, and the dots between them. -/
def isDottedChar (c : Char) : Bool := c.isAlphanum || c == '_' || c == '$' || c == '.'

theorem isDottedChar_of_isSegment (hv : isSegment v = true) : ∀ c ∈ v, isDottedChar c = true := by
  cases v with
  | nil => cases hv
  | cons c v =>
      rw [isSegment, Bool.and_eq_true, List.all_eq_true, startsName] at hv
      obtain ⟨hfirst, hrest⟩ := hv
      refine List.forall_mem_cons.2 ⟨?_, fun d hd => ?_⟩
      · rw [isDottedChar, Char.isAlphanum]
        simp only [Bool.or_eq_true] at hfirst ⊢
        exact .inl (hfirst.imp_left (Or.imp_left .inl))
      · rw [isDottedChar, Bool.or_eq_true]
        exact .inl (hrest d hd)

theorem isDottedChar_of_mem (hw : isSegment w = true) (hws : ∀ v ∈ ws, isSegment v = true) :
    ∀ c ∈ dotted w ws, isDottedChar c = true := by
  intro c hc
  obtain hc | hc := List.mem_append.1 hc
  · exact isDottedChar_of_isSegment hw c hc
  · obtain ⟨v, hv, hc⟩ := List.mem_flatMap.1 hc
    obtain rfl | hc := List.mem_cons.1 hc
    · rfl
    · exact isDottedChar_of_isSegment (hws v hv) c hc

theorem not_mem_dotted (hw : isSegment w = true) (hws : ∀ v ∈ ws, isSegment v = true) {c : Char}
    (hc : isDottedChar c = false) : c ∉ dotted w ws := by
  intro hmem
  rw [isDottedChar_of_mem hw hws c hmem] at hc
  cases hc

theorem ofText_dotted_eq_scan (hw : isSegment w = true) (hws : ∀ v ∈ ws, isSegment v = true) :
    ofText (dotted w ws) = scan [] (dotted w ws) := by
  have hreturn := not_mem_dotted hw hws (c := '\r') (by decide)
  have hbegins : ∃ c s, dotted w ws = c :: s ∧ BeginsLexeme c := by
    cases w with
    | nil => cases hw
    | cons c w =>
        refine ⟨c, w ++ Text.afterDots ws, rfl, ?_⟩
        have hc := isDottedChar_of_isSegment hw c List.mem_cons_self
        rw [isDottedChar, Bool.or_eq_true, Bool.or_eq_true, beq_iff_eq, beq_iff_eq] at hc
        obtain (hname | rfl) | rfl := hc
        · exact beginsLexeme_of_isNameChar (isNameChar_of_isPlainChar hname)
        · decide
        · decide
  obtain ⟨c, s, heq, hc⟩ := hbegins
  have hscan := ofText_eq_scan hc s
  rwa [← heq, normalizeLines_of_not_mem hreturn] at hscan

/-- **Segments with dots between them are read one by one**, if no dollar sign is in any of
them. -/
theorem ofText_dotted (hw : isSegment w = true) (hws : ∀ v ∈ ws, isSegment v = true)
    (hdollar : ∀ v ∈ w :: ws, '$' ∉ v) : ofText (dotted w ws) = some (ofWord w :: ofDots ws) := by
  have hscan := @scan_dotted [] [] w ws hw hws hdollar breaks_nil
  rw [List.append_nil, scan_nil, Option.map_some, List.append_nil] at hscan
  rw [ofText_dotted_eq_scan hw hws, hscan]

theorem ofText_dotted_dollar (hw : isSegment w = true) (hws : ∀ v ∈ ws, isSegment v = true)
    (hdollar : ∃ v ∈ w :: ws, '$' ∈ v) : ofText (dotted w ws) = none := by
  rw [ofText_dotted_eq_scan hw hws, dotted]
  by_cases hmem : '$' ∈ w
  · exact scan_segment_dollar hw hmem _
  · have hrest := head?_afterDots_append ws breaks_nil
    rw [List.append_nil] at hrest
    have hlater : ∃ v ∈ ws, '$' ∈ v := by simpa [hmem] using hdollar
    rw [scan_wordBefore (isPlainWord_of_isSegment hw hmem) hrest,
      scan_afterDots_dollar hws hlater]
    rfl

end Lexeme

/-! ## The parser -/

namespace Parse

open Lexeme

variable {α β : Type} {ls ls' : List Lexeme} {k : Lexeme}

theorem bind_of_eq_some {x : Parse α} {f : α → Parse β} {a : α} (h : x ls = some (a, ls')) :
    (x >>= f) ls = f a ls' := by
  show (x ls >>= _) = _
  rw [h]
  rfl

theorem bind_of_eq_none {x : Parse α} {f : α → Parse β} (h : x ls = none) :
    (x >>= f) ls = none := by
  show (x ls >>= _) = _
  rw [h]
  rfl

/-- Where a lexeme is not next, what it would lead to is passed over. -/
theorem accept_bind_of_ne (hk : ls.head? ≠ some k) {y z : Parse β} :
    (accept k >>= fun b => if b = true then y else z) ls = z ls := by
  have hpassed : accept k ls = some (false, ls) := by rw [accept_eq, if_neg hk]
  rw [bind_of_eq_some hpassed, if_neg Bool.false_ne_true]

theorem accept_bind_cons {y z : Parse β} :
    (accept k >>= fun b => if b = true then y else z) (k :: ls) = y ls := by
  have hnext : accept k (k :: ls) = some (true, ls) := by
    rw [accept_eq]
    exact if_pos rfl
  rw [bind_of_eq_some hnext, if_pos rfl]

/-- Whether a parser, from some depth of descent on, takes lexemes up to a rest for an expression,
or fails. -/
def Takes (rest : List Lexeme) (x : Nat → Parse Expr) (depth : Nat) (ls : List Lexeme)
    (r : Option Expr) : Prop :=
  ∀ m, x (m + depth) ls = r.map (·, rest)

/-- Whether no expression goes on with what is left: nothing, or a closing parenthesis in front. -/
def Ends (rest : List Lexeme) : Prop := ∀ k ∈ rest.head?, k = .op ")"

variable {depth : Nat} {r : Option Expr} {rest : List Lexeme}

theorem ends_nil : Ends [] := nofun

theorem ends_close (rest : List Lexeme) : Ends (.op ")" :: rest) := by
  intro k hk
  cases hk
  rfl

theorem Ends.head?_ne (h : Ends rest) (hk : k ≠ .op ")") : rest.head? ≠ some k :=
  fun heq => hk (h k heq)

theorem Ends.cases (h : Ends rest) : rest = [] ∨ ∃ ls, rest = .op ")" :: ls := by
  cases rest with
  | nil => exact .inl rfl
  | cons k ls => exact .inr ⟨ls, congrArg (· :: ls) (h k rfl)⟩

theorem Takes.mono {x : Nat → Parse Expr} (h : Takes rest x depth ls r) {k : Nat}
    (hk : depth ≤ k) : Takes rest x k ls r := by
  intro m
  have hsum : m + k = m + (k - depth) + depth := by omega
  rw [hsum]
  exact h _

/-- What stands in front of an operand that binds tightly. -/
def isSign (k : Lexeme) : Bool := [.op "+", .op "-", .op "~", .keyword "await"].contains k

theorem takes_factor (hrest : Ends rest) (h : Takes rest primary depth ls r)
    (hls : ls.head?.any isSign = false) : Takes rest factor (depth + 1) ls r := by
  -- No sign is in front, so each of the four tests goes on to what binds tighter.
  have hne (k : Lexeme) (hk : isSign k = true) : ls.head? ≠ some k := by
    intro heq
    rw [heq, Option.any_some, hk] at hls
    cases hls
  intro m
  show factor (m + depth + 1) ls = _
  rw [factor]
  refine (accept_bind_of_ne (k := .op "+") (hne _ rfl)).trans ?_
  refine (accept_bind_of_ne (k := .op "-") (hne _ rfl)).trans ?_
  refine (accept_bind_of_ne (k := .op "~") (hne _ rfl)).trans ?_
  refine (accept_bind_of_ne (k := .keyword "await") (hne _ rfl)).trans ?_
  cases r with
  | none => exact bind_of_eq_none (h m)
  | some e =>
      refine (bind_of_eq_some (h m)).trans ?_
      exact accept_bind_of_ne (k := .op "**") (hrest.head?_ne (by simp))

/-- No operator is in front of what is left. -/
theorem binaryRest_ends (hrest : Ends rest) (n level : Nat) (e : Expr) :
    binaryRest (n + 1) level e rest = some (e, rest) := by
  rw [binaryRest]
  obtain rfl | ⟨ls, rfl⟩ := hrest.cases
  · rfl
  · -- A closing parenthesis is an operator of no level.
    have hlookup : (binaryLevels[level]?.getD []).lookup ")" = none := by
      cases hlevel : binaryLevels[level]? with
      | none => rfl
      | some ops =>
          have hall : ∀ ops ∈ binaryLevels, ops.lookup ")" = none := by decide
          exact hall ops (List.mem_of_getElem? hlevel)
    have hpeek : peek (.op ")" :: ls) = some (some (.op ")"), .op ")" :: ls) := rfl
    refine (bind_of_eq_some hpeek).trans ?_
    dsimp only
    rw [hlookup]
    rfl

theorem takes_binary (hrest : Ends rest) (h : Takes rest factor (depth + 1) ls r) {level : Nat}
    (hlevel : level ≤ 6) : Takes rest (binary · level) (depth + 8 - level) ls r := by
  -- on the levels that are left, from the tightest one outwards
  induction hk : 6 - level generalizing level with
  | zero =>
      obtain rfl : level = 6 := by omega
      intro m
      show binary (m + (depth + 1) + 1) 6 ls = _
      rw [binary, if_pos (by decide)]
      exact h m
  | succ k ih =>
      intro m
      have hlt : level < 6 := by omega
      have hdepth : m + (depth + 8 - level) = m + (depth + 8 - (level + 1)) + 1 := by omega
      have hnext := @ih (level + 1) hlt (by omega) m
      have hfuel : m + (depth + 8 - (level + 1)) = m + (depth + 6 - level) + 1 := by omega
      show binary (m + (depth + 8 - level)) level ls = _
      rw [hdepth, binary, if_neg (by simpa [binaryLevels] using hlt)]
      cases r with
      | none => exact bind_of_eq_none hnext
      | some e =>
          refine (bind_of_eq_some hnext).trans ?_
          rw [hfuel]
          exact binaryRest_ends hrest _ level e

theorem takes_inversion (hrest : Ends rest) (h : Takes rest (binary · 0) (depth + 1) ls r)
    (hls : ls.head? ≠ some (.keyword "not")) : Takes rest inversion (depth + 2) ls r := by
  intro m
  show inversion (m + (depth + 1) + 1) ls = _
  rw [inversion]
  refine (accept_bind_of_ne (k := .keyword "not") hls).trans ?_
  cases r with
  | none => exact bind_of_eq_none (h m)
  | some e =>
      refine (bind_of_eq_some (h m)).trans ?_
      have hlinks : links (m + (depth + 1)) rest = some ([], rest) := by
        rw [← Nat.add_assoc, links]
        obtain rfl | ⟨ls, rfl⟩ := hrest.cases <;> rfl
      exact bind_of_eq_some hlinks

theorem more_ends (hrest : Ends rest) (n : Nat) (word : String) :
    more (n + 1) word rest = some ([], rest) := by
  rw [more]
  exact accept_bind_of_ne (k := .keyword word) (hrest.head?_ne (by simp))

theorem takes_conjunction (hrest : Ends rest) (h : Takes rest inversion (depth + 1) ls r) :
    Takes rest conjunction (depth + 2) ls r := by
  intro m
  show conjunction (m + (depth + 1) + 1) ls = _
  rw [conjunction]
  cases r with
  | none => exact bind_of_eq_none (h m)
  | some e =>
      exact (bind_of_eq_some (h m)).trans (bind_of_eq_some (more_ends hrest (m + depth) "and"))

theorem takes_disjunction (hrest : Ends rest) (h : Takes rest conjunction (depth + 1) ls r) :
    Takes rest disjunction (depth + 2) ls r := by
  intro m
  show disjunction (m + (depth + 1) + 1) ls = _
  rw [disjunction]
  cases r with
  | none => exact bind_of_eq_none (h m)
  | some e =>
      exact (bind_of_eq_some (h m)).trans (bind_of_eq_some (more_ends hrest (m + depth) "or"))

theorem takes_expression (hrest : Ends rest) (h : Takes rest disjunction depth ls r)
    (hls : ls.head? ≠ some (.keyword "lambda")) : Takes rest expression (depth + 1) ls r := by
  intro m
  show expression (m + depth + 1) ls = _
  rw [expression]
  refine (accept_bind_of_ne (k := .keyword "lambda") hls).trans ?_
  cases r with
  | none => exact bind_of_eq_none (h m)
  | some e =>
      refine (bind_of_eq_some (h m)).trans ?_
      exact accept_bind_of_ne (k := .keyword "if") (hrest.head?_ne (by simp))

/-- From a negation up to an expression the parser passes so many levels. -/
theorem takes_expression_of_inversion (hrest : Ends rest)
    (h : Takes rest inversion (depth + 1) ls r) (hls : ls.head? ≠ some (.keyword "lambda")) :
    Takes rest expression (depth + 4) ls r :=
  takes_expression hrest (takes_disjunction hrest (takes_conjunction hrest h)) hls

/-- From a factor up to a negation, too. -/
theorem takes_inversion_of_factor (hrest : Ends rest) (h : Takes rest factor (depth + 1) ls r)
    (hls : ls.head? ≠ some (.keyword "not")) : Takes rest inversion (depth + 9) ls r :=
  takes_inversion hrest (takes_binary hrest h (Nat.zero_le 6)) hls

/-- An expression that is all there is makes the whole. -/
theorem takes_whole (h : Takes [] expression depth ls r) : Takes [] whole depth ls r := by
  intro m
  rw [whole]
  cases r with
  | none => exact bind_of_eq_none (h m)
  | some e =>
      refine (bind_of_eq_some (h m)).trans ?_
      exact accept_bind_of_ne (k := .op ",") (by simp)

/-! ### Words behind dots -/

variable {v w : List Char} {ws : List (List Char)}

/-- Whether a word is a reserved one. -/
def isReserved (w : List Char) : Bool := keywords.contains (String.ofList w)

theorem ofWord_of_isReserved (hw : isReserved w = true) :
    ofWord w = .keyword (String.ofList w) := if_pos hw

theorem ofWord_of_not (hw : isReserved w = false) : ofWord w = .name (String.ofList w) := by
  rw [ofWord]
  exact if_neg (by simpa [isReserved] using hw)

/-- The attributes behind an expression, one in the other. -/
def attributes (e : Expr) (ws : List (List Char)) : Expr :=
  ws.foldl (fun e v => .attribute e (String.ofList v)) e

/-- What words with dots in front of them make of an expression, if they are names. -/
def attributes? (e : Expr) (ws : List (List Char)) : Option Expr :=
  if ws.any isReserved then none else some (attributes e ws)

theorem trailers_dot (n : Nat) (e : Expr) (ls : List Lexeme) :
    trailers (n + 1) e (.op "." :: ls) =
      (name ls).bind fun (id, ls') => trailers n (.attribute e id) ls' := by
  rw [trailers]
  exact accept_bind_cons (k := .op ".")

theorem trailers_ends (hrest : Ends rest) (n : Nat) (e : Expr) :
    trailers (n + 1) e rest = some (e, rest) := by
  rw [trailers]
  obtain rfl | ⟨ls, rfl⟩ := hrest.cases <;> rfl

theorem trailers_ofDots (hrest : Ends rest) (e : Expr) (ws : List (List Char)) (m : Nat) :
    trailers (m + (ws.length + 1)) e (ofDots ws ++ rest) = (attributes? e ws).map (·, rest) := by
  induction ws generalizing e with
  | nil => exact trailers_ends hrest m e
  | cons v ws ih =>
      have hsplit : ofDots (v :: ws) ++ rest = .op "." :: ofWord v :: (ofDots ws ++ rest) := rfl
      rw [hsplit, List.length_cons, ← Nat.add_assoc, trailers_dot]
      -- Behind a dot a reserved word is no name: then both sides fail.
      cases hv : isReserved v with
      | true =>
          rw [ofWord_of_isReserved hv, attributes?, List.any_cons, hv]
          rfl
      | false =>
          have hattributes : attributes? e (v :: ws) =
              attributes? (.attribute e (String.ofList v)) ws := by
            rw [attributes?, attributes?, List.any_cons, hv]
            rfl
          rw [ofWord_of_not hv, hattributes]
          exact ih _

/-- What a word writes: a constant or a name, unless it is another reserved word. -/
def ofWord? (w : List Char) : Option Expr :=
  if w = "True".toList then some (.literal (.bool true))
  else if w = "False".toList then some (.literal (.bool false))
  else if w = "None".toList then some (.literal .none)
  else if isReserved w then none
  else some (.name (String.ofList w))

theorem atom_keyword : ∀ k ∈ keywords, ∀ (n : Nat) (ls : List Lexeme),
    atom (n + 1) (.keyword k :: ls) = (ofWord? k.toList).map (·, ls) := by
  simp only [keywords, List.forall_mem_cons, List.not_mem_nil, false_imp_iff, implies_true,
    and_true]
  and_intros <;>
  · intro n ls
    rw [atom]
    rfl

theorem atom_ofWord (n : Nat) (w : List Char) (ls : List Lexeme) :
    atom (n + 1) (ofWord w :: ls) = (ofWord? w).map (·, ls) := by
  cases hw : isReserved w with
  | false =>
      have hne (k : List Char) (hk : isReserved k = true) : w ≠ k := by
        rintro rfl
        rw [hk] at hw
        cases hw
      rw [ofWord_of_not hw, ofWord?, if_neg (hne _ rfl), if_neg (hne _ rfl), if_neg (hne _ rfl), hw,
        atom]
      rfl
  | true =>
      have hmem : String.ofList w ∈ keywords := by simpa [isReserved] using hw
      rw [ofWord_of_isReserved hw, atom_keyword _ hmem, String.toList_ofList]

/-- No atom begins with a dot. -/
theorem atom_ofDots (n : Nat) (ws : List (List Char)) : atom (n + 1) (ofDots ws) = none := by
  cases ws <;>
  · rw [atom]
    rfl

/-- What words with dots between them write. -/
def dotted? (w : List Char) (ws : List (List Char)) : Option Expr :=
  (ofWord? w).bind (attributes? · ws)

theorem takes_primary (hrest : Ends rest) (w : List Char) (ws : List (List Char)) :
    Takes rest primary (ws.length + 2) (ofWord w :: (ofDots ws ++ rest)) (dotted? w ws) := by
  intro m
  show primary (m + (ws.length + 1) + 1) _ = _
  have hatom := atom_ofWord (m + ws.length) w (ofDots ws ++ rest)
  rw [primary, dotted?]
  cases hw : ofWord? w with
  | none =>
      rw [hw] at hatom
      exact bind_of_eq_none hatom
  | some e =>
      rw [hw] at hatom
      exact (bind_of_eq_some hatom).trans (trailers_ofDots hrest e ws m)

theorem takes_primary_ofDots (ws : List (List Char)) : Takes [] primary 2 (ofDots ws) none := by
  intro m
  show primary (m + 1 + 1) _ = _
  rw [primary]
  exact bind_of_eq_none (atom_ofDots m ws)

theorem takes_factor_ofDots (ws : List (List Char)) : Takes [] factor 3 (ofDots ws) none := by
  refine takes_factor ends_nil (takes_primary_ofDots ws) ?_
  cases ws <;> rfl

theorem takes_inversion_ofDots (ws : List (List Char)) :
    Takes [] inversion 11 (ofDots ws) none := by
  refine takes_inversion_of_factor ends_nil (takes_factor_ofDots ws) ?_
  cases ws <;> exact nofun

/-- Behind `lambda` neither a parameter nor a colon is next. -/
theorem takes_expression_lambda (ws : List (List Char)) :
    Takes [] expression 2 (.keyword "lambda" :: ofDots ws) none := by
  intro m
  show expression (m + 1 + 1) _ = _
  rw [expression]
  refine (accept_bind_cons (k := .keyword "lambda")).trans (bind_of_eq_none ?_)
  cases ws <;>
  · rw [parameters]
    rfl

theorem takes_inversion_not (ws : List (List Char)) :
    Takes [] inversion 12 (.keyword "not" :: ofDots ws) none := by
  intro m
  show inversion (m + 11 + 1) _ = _
  rw [inversion]
  exact (accept_bind_cons (k := .keyword "not")).trans
    (bind_of_eq_none (takes_inversion_ofDots ws m))

theorem takes_factor_await (ws : List (List Char)) :
    Takes [] factor 3 (.keyword "await" :: ofDots ws) none := by
  intro m
  show factor (m + 2 + 1) _ = _
  rw [factor]
  refine (accept_bind_of_ne (k := .op "+") (by simp)).trans ?_
  refine (accept_bind_of_ne (k := .op "-") (by simp)).trans ?_
  refine (accept_bind_of_ne (k := .op "~") (by simp)).trans ?_
  refine (accept_bind_cons (k := .keyword "await")).trans ?_
  exact bind_of_eq_none (takes_primary_ofDots ws m)

theorem eq_of_ofWord {u : String} (h : ofWord w = .keyword u) : w = u.toList := by
  cases hw : isReserved w with
  | false =>
      rw [ofWord_of_not hw] at h
      cases h
  | true =>
      rw [ofWord_of_isReserved hw, keyword.injEq] at h
      rw [← h, String.toList_ofList]

theorem isSign_ofWord (hw : w ≠ "await".toList) : isSign (ofWord w) = false := by
  rw [← Bool.not_eq_true, isSign, List.contains_iff_mem]
  intro hmem
  simp only [List.mem_cons, List.not_mem_nil, or_false] at hmem
  have hop (s : String) : ofWord w ≠ .op s := by
    cases hreserved : isReserved w with
    | false => simp [ofWord_of_not hreserved]
    | true => simp [ofWord_of_isReserved hreserved]
  obtain h | h | h | h := hmem
  · exact hop _ h
  · exact hop _ h
  · exact hop _ h
  · exact hw (eq_of_ofWord h)

/-- Words with dots between them are taken for one expression, unless the first one begins an
expression of another form. -/
theorem takes_expression_dotted (hrest : Ends rest)
    (hw : w ∉ ["lambda".toList, "not".toList, "await".toList]) (ws : List (List Char)) :
    Takes rest expression (ws.length + 14) (ofWord w :: (ofDots ws ++ rest)) (dotted? w ws) := by
  simp only [List.mem_cons, List.not_mem_nil, or_false, not_or] at hw
  obtain ⟨hlambda, hnot, hawait⟩ := hw
  have hne (u : String) (hu : w ≠ u.toList) :
      (ofWord w :: (ofDots ws ++ rest)).head? ≠ some (.keyword u) :=
    fun h => hu (eq_of_ofWord (Option.some.inj h))
  have hfactor := takes_factor hrest (takes_primary hrest w ws) (isSign_ofWord hawait)
  have hinversion := takes_inversion_of_factor hrest hfactor (hne "not" hnot)
  exact takes_expression_of_inversion hrest hinversion (hne "lambda" hlambda)

/-- Words with dots between them are taken as a whole, or not at all. -/
theorem takes_whole_dotted (w : List Char) (ws : List (List Char)) :
    Takes [] whole (ws.length + 15) (ofWord w :: ofDots ws) (dotted? w ws) := by
  -- three reserved words open an expression of their own kind; dots behind them do not fit it
  by_cases hlambda : w = "lambda".toList
  · subst hlambda
    exact (takes_whole (takes_expression_lambda ws)).mono (by omega)
  by_cases hnot : w = "not".toList
  · subst hnot
    have hexpression : Takes [] expression (11 + 4) (.keyword "not" :: ofDots ws) none :=
      takes_expression_of_inversion ends_nil (takes_inversion_not ws) (by simp)
    exact (takes_whole hexpression).mono (by omega)
  by_cases hawait : w = "await".toList
  · subst hawait
    have hinversion : Takes [] inversion (2 + 9) (.keyword "await" :: ofDots ws) none :=
      takes_inversion_of_factor ends_nil (takes_factor_await ws) (by simp)
    have hexpression : Takes [] expression (10 + 4) (.keyword "await" :: ofDots ws) none :=
      takes_expression_of_inversion ends_nil hinversion (by simp)
    exact (takes_whole hexpression).mono (by omega)
  have hw : w ∉ ["lambda".toList, "not".toList, "await".toList] := by
    simp only [List.mem_cons, List.not_mem_nil, or_false, not_or]
    exact ⟨hlambda, hnot, hawait⟩
  have hexpression := takes_expression_dotted ends_nil hw ws
  rw [List.append_nil] at hexpression
  exact (takes_whole hexpression).mono (Nat.le_succ _)

end Parse

open Form Parse
open Text (dotted)

variable {w : List Char} {ws : List (List Char)}

theorem Expr.ofText?_dotted_dollar (hw : isSegment w = true) (hws : ∀ v ∈ ws, isSegment v = true)
    (hdollar : ∃ v ∈ w :: ws, '$' ∈ v) : Expr.ofText? (dotted w ws) = none := by
  rw [Expr.ofText?, Lexeme.ofText_dotted_dollar hw hws hdollar]
  rfl

/-- A text writes what the parser takes its lexemes for, if the descent is deep enough. -/
theorem Expr.ofText?_of_takes {s : List Char} {ls : List Lexeme} {depth : Nat} {r : Option Expr}
    (hs : Lexeme.ofText s = some ls) (h : Takes [] whole depth ls r)
    (hdepth : depth ≤ 24 * (ls.length + 2)) : Expr.ofText? s = r := by
  have hwhole := h.mono hdepth 0
  rw [Nat.zero_add] at hwhole
  rw [Expr.ofText?, hs]
  show (whole _ _ >>= _) = _
  rw [hwhole]
  cases r <;> rfl

theorem Lexeme.length_ofDots (ws : List (List Char)) : (ofDots ws).length = 2 * ws.length := by
  induction ws with
  | nil => rfl
  | cons v ws ih =>
      show (ofDots ws).length + 2 = _
      rw [ih, List.length_cons]
      omega

/-- **Segments with dots between them write a chain of attributes of the first**, if no dollar sign
is in any of them. -/
theorem Expr.ofText?_dotted (hw : isSegment w = true) (hws : ∀ v ∈ ws, isSegment v = true)
    (hdollar : ∀ v ∈ w :: ws, '$' ∉ v) : Expr.ofText? (dotted w ws) = dotted? w ws := by
  refine ofText?_of_takes (Lexeme.ofText_dotted hw hws hdollar) (takes_whole_dotted w ws) ?_
  rw [List.length_cons, Lexeme.length_ofDots]
  omega

end Curly
