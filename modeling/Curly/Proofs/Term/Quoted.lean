import Curly.Proofs.Expr.Place
import Curly.Proofs.Program.Compilation

/-!
Operands in quotes. Such an operand must be a string when it is read by itself, and it is pasted as
it is into the code of a condition. There it is read as the plain code of its value would be, on
either side of every operator, and nothing around it is read otherwise. The one exception is a
remark that the operand leaves open: in the condition it swallows the rest of the line, brackets
included, so that the condition is not whole and its program cannot run.
-/

namespace Curly

open Lexeme

namespace Operator

/-- The code of a comparison in front of its operands. -/
def opening (op : Operator) : String :=
  match op with
  | .eq => Helper.strictEqual.name ++ "("
  | .neq => "(not " ++ Helper.strictEqual.name ++ "("
  | .and | .or => "("
  | op => Helper.compare.name ++ "(" ++ Text.Quoted.ofString op.name ++ ", "

/-- The code of a comparison between its operands. -/
def between (op : Operator) : String :=
  match op with
  | .and => " and "
  | .or => " or "
  | _ => ", "

/-- The code of a comparison behind its operands. -/
def closing (op : Operator) : String :=
  match op with
  | .neq => "))"
  | _ => ")"

end Operator

namespace Term

variable {t l r other : Term} {text : List Char}

/-- The code of a comparison has the codes of its operands in it as they are. -/
theorem code_comparison (op : Operator) (l r : Term) :
    (comparison op l r).code = op.opening ++ l.code ++ op.between ++ r.code ++ op.closing := by
  have hcall (f a b : String) : callCode f [a, b] = f ++ "(" ++ a ++ ", " ++ b ++ ")" := by
    simp [callCode, commas, String.append_assoc]
  have hcompare (f a b c : String) :
      callCode f [a, b, c] = f ++ "(" ++ a ++ ", " ++ b ++ ", " ++ c ++ ")" := by
    simp [callCode, commas, String.append_assoc]
  cases op with
  | eq => exact hcall _ _ _
  | neq =>
      rw [code, hcall]
      simp [Operator.opening, Operator.between, Operator.closing, String.append_assoc]
  | and | or => rfl
  | gt | gte | lt | lte => exact hcompare _ _ _ _

/-! ## Where operands stand -/

/-- The lexer arrives at the left operand of a comparison, inside brackets. -/
theorem exists_scan_opening (op : Operator) :
    ∃ ks stack, stack ≠ [] ∧ stack.length ≤ 2 ∧ ∀ s,
      scan [] (normalizeLines (op.opening.toList ++ s)) =
        (scan stack (normalizeLines s)).map (ks ++ ·) := by
  -- the orderings are calls with the name of the operator in front of the operands
  have hordered (name : String) : ∃ ks stack, stack ≠ [] ∧ stack.length ≤ 2 ∧ ∀ s,
      scan [] (normalizeLines ((Helper.compare.name ++ "(" ++ Text.Quoted.ofString name ++
        ", ").toList ++ s)) = (scan stack (normalizeLines s)).map (ks ++ ·) := by
    refine ⟨[ofWord Helper.compare.name.toList, .op "(", .string (.str name false), .op ","],
      [")"], by simp, by simp, fun s => ?_⟩
    have hcode : (Helper.compare.name ++ "(" ++ Text.Quoted.ofString name ++ ", ").toList ++ s =
        Helper.compare.name.toList ++ '(' :: ((Text.Quoted.ofString name).toList ++
          ',' :: ' ' :: s) := by simp
    rw [hcode, scan_word (isPlainWord_helper _) (breaks_cons (by decide) _),
      scan_open (by decide), scan_encode _ (breaks_cons (by decide) _), scan_comma,
      scan_normalizeLines_blank]
    simp [Function.comp_def]
  cases op with
  | eq =>
      refine ⟨[ofWord Helper.strictEqual.name.toList, .op "("], [")"], by simp, by simp,
        fun s => ?_⟩
      have hcode : Operator.eq.opening.toList ++ s =
          Helper.strictEqual.name.toList ++ '(' :: s := by simp [Operator.opening]
      rw [hcode, scan_word (isPlainWord_helper _) (breaks_cons (by decide) _),
        scan_open (by decide)]
      simp [Function.comp_def]
  | neq =>
      refine ⟨[.op "(", ofWord "not".toList, ofWord Helper.strictEqual.name.toList, .op "("],
        [")", ")"], by simp, by simp, fun s => ?_⟩
      have hcode : Operator.neq.opening.toList ++ s =
          '(' :: ("not".toList ++ ' ' :: (Helper.strictEqual.name.toList ++ '(' :: s)) := by
        simp [Operator.opening]
      rw [hcode, scan_open (by decide), scan_word (by decide) (breaks_cons (by decide) _),
        scan_normalizeLines_blank, scan_word (isPlainWord_helper _) (breaks_cons (by decide) _),
        scan_open (by decide)]
      simp [Function.comp_def]
  | and | or =>
      exact ⟨[.op "("], [")"], by simp, by simp, fun s => scan_open (by decide)⟩
  | gt | gte | lt | lte => exact hordered _

/-- Between the operands, the lexer passes over a comma or a word. -/
theorem exists_scan_between (op : Operator) :
    ∃ k, ∀ stack s, scan stack (normalizeLines (op.between.toList ++ s)) =
      (scan stack (normalizeLines s)).map (k :: ·) := by
  have hword {w : List Char} (hw : isPlainWord w = true) (stack : List String) (s : List Char) :
      scan stack (normalizeLines (' ' :: (w ++ ' ' :: s))) =
        (scan stack (normalizeLines s)).map (ofWord w :: ·) := by
    rw [scan_normalizeLines_blank, scan_word hw (breaks_cons (by decide) _),
      scan_normalizeLines_blank]
  have hcomma (stack : List String) (s : List Char) :
      scan stack (normalizeLines (',' :: ' ' :: s)) =
        (scan stack (normalizeLines s)).map (.op "," :: ·) := by
    rw [scan_comma, scan_normalizeLines_blank]
  cases op with
  | and => exact ⟨_, hword (w := "and".toList) (by decide)⟩
  | or => exact ⟨_, hword (w := "or".toList) (by decide)⟩
  | eq | neq | gt | gte | lt | lte => exact ⟨_, hcomma⟩

/-- Whether the lexer arrives at a place in a condition, in a line and by itself. -/
structure IsPlace (front : String) (stack : List String) : Prop where
  inLine : ∃ ks, Arrives ("if " ++ front).toList ks stack
  alone : ∃ ks, Arrives front.toList ks stack
  inBrackets : stack ≠ []

theorem isPlace_of_scan {front : String} {ks : List Lexeme} {stack : List String}
    (hhead : ∃ c ∈ front.toList.head?, BeginsLexeme c) (hstack : stack ≠ [])
    (hroom : stack.length ≤ bracketLimit)
    (hscan : ∀ s, scan [] (normalizeLines (front.toList ++ s)) =
      (scan stack (normalizeLines s)).map (ks ++ ·)) : IsPlace front stack where
  inLine := by
    refine ⟨ofWord "if".toList :: ks, fun s => ?_, hroom⟩
    have hcode : ("if " ++ front).toList ++ s = "if".toList ++ ' ' :: (front.toList ++ s) := by
      simp
    have hbegins : ofText ("if".toList ++ ' ' :: (front.toList ++ s)) = _ :=
      ofText_eq_scan (c := 'i') (by decide) _
    -- the word in front is one lexeme more, and the blank behind it none
    have hif : isPlainWord "if".toList = true := by decide
    have hread := @scan_word [] _ _ hif (breaks_cons (c := ' ') (by decide) (front.toList ++ s))
    rw [hcode, hbegins]
    refine hread.trans ?_
    rw [scan_normalizeLines_blank, hscan, Option.map_map]
    rfl
  alone := by
    obtain ⟨c, hc, hbegins⟩ := hhead
    obtain ⟨t, ht⟩ := List.head?_eq_some_iff.1 hc
    refine ⟨ks, fun s => ?_, hroom⟩
    rw [← hscan, ht, List.cons_append, ofText_eq_scan hbegins]
  inBrackets := hstack

theorem exists_head_opening (op : Operator) : ∃ c ∈ op.opening.toList.head?, BeginsLexeme c := by
  cases op with
  | eq | gt | gte | lt | lte => exact ⟨'_', rfl, by decide⟩
  | neq | and | or => exact ⟨'(', rfl, by decide⟩

theorem exists_isPlace_left (op : Operator) : ∃ stack, IsPlace op.opening stack := by
  obtain ⟨ks, stack, hstack, hdepth, hscan⟩ := exists_scan_opening op
  have hroom : stack.length ≤ bracketLimit := hdepth.trans (by decide)
  exact ⟨stack, isPlace_of_scan (exists_head_opening op) hstack hroom hscan⟩

/-- The lexer arrives at the right operand if it reads the left one. -/
theorem exists_isPlace_right (op : Operator) {depth : Nat} {ls : List Lexeme}
    (hl : ReadsAs depth l.code.toList ls) (hdepth : depth + 2 ≤ bracketLimit) :
    ∃ stack, IsPlace (op.opening ++ l.code ++ op.between) stack := by
  obtain ⟨ks, stack, hstack, hle, hopening⟩ := exists_scan_opening op
  obtain ⟨k, hbetween⟩ := exists_scan_between op
  obtain ⟨c, hc, hbegins⟩ := exists_head_opening op
  obtain ⟨t, ht⟩ := List.head?_eq_some_iff.1 hc
  have hhead : ∃ d ∈ (op.opening ++ l.code ++ op.between).toList.head?, BeginsLexeme d :=
    ⟨c, by simp [ht], hbegins⟩
  have hscan : ∀ s, scan [] (normalizeLines ((op.opening ++ l.code ++ op.between).toList ++ s)) =
      (scan stack (normalizeLines s)).map (ks ++ (ls ++ [k]) ++ ·) := by
    intro s
    -- what stands between the operands goes on with no lexeme of the left one
    have hbreaks : Breaks (op.between.toList ++ s) := by
      cases op with
      | and | or => exact breaks_cons (c := ' ') (by decide) _
      | eq | neq | gt | gte | lt | lte => exact breaks_cons (c := ',') (by decide) _
    rw [String.toList_append, String.toList_append, List.append_assoc, List.append_assoc,
      hopening, hl (by omega) hbreaks, hbetween]
    simp [Function.comp_def]
  exact ⟨stack, isPlace_of_scan hhead hstack (by omega) hscan⟩

/-! ## Conditions -/

/-- The line that begins a block with a condition. -/
def line (condition : Term) : ListingStep := .line ("if " ++ condition.code ++ ":")

/-- Whether the code of a condition can be put for that of another one: their lines are both whole
or both not, and it writes the expression that the other one writes. -/
structure StandsFor (c c' : Term) : Prop where
  isWhole : c.line.isWhole = c'.line.isWhole
  writes : ∀ e, Expr.ofText? c'.code.toList = some e → Expr.ofText? c.code.toList = some e

theorem toList_line {front code back : String} :
    ("if " ++ (front ++ code ++ back) ++ ":").toList =
      ("if " ++ front).toList ++ code.toList ++ (back.toList ++ [':']) := by
  simp [String.append_assoc]

theorem toList_condition {front code back : String} :
    (front ++ code ++ back).toList = front.toList ++ code.toList ++ back.toList := by
  simp

theorem breaks_append {a b : List Char} (ha : Breaks a) (hb : Breaks b) : Breaks (a ++ b) := by
  cases a with
  | nil => exact hb
  | cons c a => exact ha

variable {front back : String} {stack : List String} {c c' u : Term} {q l : Literal}
  {qs : List Literal}

/-- A row of strings stands for the plain code of the string that they make. -/
theorem IsPlace.standsFor (hplace : IsPlace front stack) (hback : Breaks back.toList)
    (hjoin : Parse.joinStrings q qs = some l)
    (ht : ReadsAs 0 t.code.toList ((q :: qs).map .string))
    (hu : ReadsAs 0 u.code.toList [.string l]) (hc : c.code = front ++ t.code ++ back)
    (hc' : c'.code = front ++ u.code ++ back) : StandsFor c c' where
  isWhole := by
    obtain ⟨ks, hfront⟩ := hplace.inLine
    rw [line, line, ListingStep.isWhole, ListingStep.isWhole, hc, hc', toList_line, toList_line]
    exact isSome_ofText_row ht hu hfront (breaks_append hback (breaks_cons (by decide) _))
  writes := by
    intro e he
    obtain ⟨ks, hfront⟩ := hplace.alone
    rw [hc', toList_condition] at he
    rw [hc, toList_condition]
    exact Expr.ofText?_row hjoin ht hu hfront hback he

/-- Whether the code of a condition is read by nothing: its line is not whole, and by itself it
writes no expression. -/
structure IsBroken (c : Term) : Prop where
  isWhole : c.line.isWhole = false
  writes : Expr.ofText? c.code.toList = none

/-- An open remark breaks a condition, if no line ends behind it. -/
theorem IsPlace.isBroken (hplace : IsPlace front stack) (ht : LeavesRemark t.code.toList)
    (hlast : t.code.toList.getLast? ≠ some '\r') (hback : IsOneLine back.toList)
    (hc : c.code = front ++ t.code ++ back) : IsBroken c where
  isWhole := by
    obtain ⟨ks, hfront⟩ := hplace.inLine
    rw [line, ListingStep.isWhole, hc, toList_line,
      ht.ofText_eq_none hlast hfront hplace.inBrackets (hback.append (by decide))]
    rfl
  writes := by
    obtain ⟨ks, hfront⟩ := hplace.alone
    rw [hc, toList_condition, Expr.ofText?,
      ht.ofText_eq_none hlast hfront hplace.inBrackets hback]
    rfl

/-! ## Operands in quotes -/

/-- The plain code of a literal. -/
def ofLiteral (l : Literal) : Term := .literal l.code (.literal l)

/-- A term whose code is a text that can be put for the plain code of a literal. -/
structure IsLike (t : Term) (l : Literal) : Prop where
  /-- Wherever a mark is behind it, it is read as strings that make the literal, and what stands
  there is read as if there were nothing in front of it. -/
  reads : ∃ q qs, Parse.joinStrings q qs = some l ∧
    ReadsAs 0 t.code.toList ((q :: qs).map .string)
  /-- Wherever the lexer arrives at it, the expression is the same as with the plain code. -/
  writes : ∀ {front back : List Char} {ks : List Lexeme} {stack : List String} {e : Expr},
    Arrives front ks stack → Breaks back →
    Expr.ofText? (front ++ (ofLiteral l).code.toList ++ back) = some e →
    Expr.ofText? (front ++ t.code.toList ++ back) = some e
  left : ∀ (op : Operator) (other : Term),
    StandsFor (comparison op t other) (comparison op (ofLiteral l) other)
  /-- On the right of an operand that the lexer reads. -/
  right : ∀ (op : Operator) (other : Term) {depth : Nat} {ks : List Lexeme},
    ReadsAs depth other.code.toList ks → depth + 2 ≤ bracketLimit →
    StandsFor (comparison op other t) (comparison op other (ofLiteral l))
  /-- With an operand that the lexer goes through, conditions compile. -/
  isWhole : ∀ (op : Operator) (other : Term) {depth : Nat}, Passes depth other.code →
    depth + 2 ≤ bracketLimit → (comparison op t other).line.isWhole = true ∧
      (comparison op other t).line.isWhole = true

/-- A term whose code swallows what stands behind it in its line. -/
structure Swallows (t : Term) : Prop where
  /-- In brackets, what stands behind it is read from the end of its line on. -/
  reads : ∀ {stack : List String}, stack ≠ [] → ∃ ls, ∀ rest,
    scan stack (normalizeLines (t.code.toList ++ rest)) =
      (scan stack ((normalizeLines rest).dropWhile (· != '\n'))).map (ls ++ ·)
  left : ∀ (op : Operator) (other : Term), IsOneLine other.code.toList →
    IsBroken (comparison op t other)
  /-- On the right of an operand that the lexer reads. -/
  right : ∀ (op : Operator) (other : Term) {depth : Nat} {ks : List Lexeme},
    ReadsAs depth other.code.toList ks → depth + 2 ≤ bracketLimit →
    IsBroken (comparison op other t)

theorem readsAs_ofLiteral (value : String) (marked : Bool) :
    ReadsAs 0 (ofLiteral (.str value marked)).code.toList [.string (.str value marked)] :=
  readsAs_code value marked

theorem code_comparison_left (op : Operator) (l r : Term) :
    (comparison op l r).code = op.opening ++ l.code ++ (op.between ++ r.code ++ op.closing) := by
  rw [code_comparison]
  simp only [String.append_assoc]

theorem breaks_left (op : Operator) (r : Term) :
    Breaks (op.between ++ r.code ++ op.closing).toList := by
  rw [String.toList_append, String.toList_append, List.append_assoc]
  cases op with
  | and | or => exact breaks_cons (c := ' ') (by decide) _
  | eq | neq | gt | gte | lt | lte => exact breaks_cons (c := ',') (by decide) _

theorem breaks_closing (op : Operator) : Breaks op.closing.toList := by
  cases op with
  | neq => exact breaks_cons (c := ')') (by decide) [')']
  | eq | and | or | gt | gte | lt | lte => exact breaks_cons (c := ')') (by decide) []

theorem isOneLine_between (op : Operator) : IsOneLine op.between.toList := by
  cases op <;> decide

theorem isOneLine_closing (op : Operator) : IsOneLine op.closing.toList := by
  cases op <;> decide

/-- A line with a condition is whole if its code is. -/
theorem isWhole_line {depth : Nat} (hc : Passes depth c.code) (hdepth : depth ≤ bracketLimit) :
    c.line.isWhole = true :=
  isWhole_head (w := "if".toList) (by decide) hc hdepth (by simp)

/-- A row of strings can be put for the plain code of the string that they make. -/
theorem isLike_of_readsAs {value : String} {marked : Bool}
    (hjoin : Parse.joinStrings q qs = some (.str value marked))
    (ht : ReadsAs 0 t.code.toList ((q :: qs).map .string)) : IsLike t (.str value marked) where
  reads := ⟨q, qs, hjoin, ht⟩
  writes := Expr.ofText?_row hjoin ht (readsAs_ofLiteral value marked)
  left := by
    intro op other
    obtain ⟨stack, hplace⟩ := exists_isPlace_left op
    exact hplace.standsFor (breaks_left op other) hjoin ht (readsAs_ofLiteral value marked)
      (code_comparison_left op t other) (code_comparison_left op _ other)
  right := by
    intro op other depth ks hother hdepth
    obtain ⟨stack, hplace⟩ := exists_isPlace_right op hother hdepth
    exact hplace.standsFor (breaks_closing op) hjoin ht (readsAs_ofLiteral value marked)
      (code_comparison op other t) (code_comparison op other _)
  isWhole := by
    intro op other depth hother hdepth
    -- the lexer passes through the row, and so through the comparison on either side
    have hpasses : Passes depth t.code := ht.passes.mono (Nat.zero_le depth)
    exact ⟨isWhole_line (passes_comparison op hpasses hother) hdepth,
      isWhole_line (passes_comparison op hother hpasses) hdepth⟩

/-- A text that leaves a remark open swallows what stands behind it. -/
theorem swallows_of_leavesRemark (ht : LeavesRemark t.code.toList)
    (hlast : t.code.toList.getLast? ≠ some '\r') : Swallows t where
  reads := ht.exists_scan hlast
  left := by
    intro op other hother
    obtain ⟨stack, hplace⟩ := exists_isPlace_left op
    refine hplace.isBroken ht hlast ?_ (code_comparison_left op t other)
    rw [String.toList_append, String.toList_append]
    exact ((isOneLine_between op).append hother).append (isOneLine_closing op)
  right := by
    intro op other depth ks hother hdepth
    obtain ⟨stack, hplace⟩ := exists_isPlace_right op hother hdepth
    exact hplace.isBroken ht hlast (isOneLine_closing op) (code_comparison op other t)

/-- **The operands in quotes.** Such an operand is a text that writes a string by itself. Its code
is the text, and it has the value of this string wherever it is evaluated. Unless the text leaves a
remark open, which it does if it cannot be put in parentheses, its code can be put for the plain
code of the string, on either side of every operator and wherever else the lexer arrives at it. If
it leaves one open, the remark swallows the rest of its line, and breaks the condition. -/
theorem readOperand_quoted (scope : Scope) (hquoted : isQuoted (Text.strip text) = true)
    (h : readOperand scope text = .ok t) : ∃ value marked,
    Expr.ofText? (Text.strip text) = some (.literal (.str value marked)) ∧
      t = .literal (String.ofList (Text.strip text)) (.literal (.str value marked)) ∧
      (∀ hooks env, Eval.expr hooks env t.expr = pure (.str value)) ∧
      (LeavesRemark (Text.strip text) ↔ ofText ('(' :: (Text.strip text ++ [')'])) = none) ∧
      (¬LeavesRemark (Text.strip text) → IsLike t (.str value marked)) ∧
      (LeavesRemark (Text.strip text) → Swallows t) := by
  rw [readOperand] at h
  generalize Text.strip text = s at hquoted h ⊢
  rw [if_pos hquoted, readQuoted] at h
  split at h
  · rename_i value marked hvalue
    cases h
    have hcode : (literal (String.ofList s) (.literal (.str value marked))).code.toList = s :=
      String.toList_ofList
    have hlast := getLast?_of_isQuoted hquoted
    refine ⟨value, marked, hvalue, rfl, ?_, leavesRemark_iff hquoted hvalue, fun hremark => ?_,
      fun hremark => ?_⟩
    · intro hooks env
      rw [expr, Eval.expr]
      rfl
    · -- a quoted text is a row of strings, with nothing behind it or with a remark
      obtain ⟨q, qs, tail, hjoin, hrow, rfl | htail⟩ := exists_isRow hquoted hvalue
      · refine isLike_of_readsAs hjoin ?_
        rw [hcode]
        exact hrow.readsAs hlast
      · exact absurd ⟨_, _, hrow, htail⟩ hremark
    · refine swallows_of_leavesRemark ?_ ?_
      · rwa [hcode]
      · rwa [hcode]
  · cases h

/-- A remark behind a string swallows the other operand and the end of the line. -/
theorem readOperand_quoted_remark : ∃ t, readOperand [] "'a'#''".toList = .ok t ∧
    t.expr = .literal (.str "a" false) ∧
    IsBroken (comparison .eq t (.path contextName "name")) := by
  have hstrip : Text.strip "'a'#''".toList = "'a'#''".toList := by decide
  have hnext : next? "'a'#''".toList = some (.string (.str "a" false), "#''".toList) := by rfl
  -- for the lexer the remark is nothing, so the text by itself reads as the string
  have hlexemes : ofText "'a'#''".toList = some [.string (.str "a" false)] := by
    have hrest : scan [] "#''".toList = some [] := (scan_remark "''".toList).trans scan_nil
    refine (ofText_eq_scan (c := '\'') (by decide) "a'#''".toList).trans ?_
    exact (scan_string hnext).trans (congrArg (Option.map _) hrest)
  have hvalue : Expr.ofText? "'a'#''".toList = some (.literal (.str "a" false)) := by
    rw [Expr.ofText?, hlexemes]
    rfl
  have hread : readOperand [] "'a'#''".toList =
      .ok (.literal "'a'#''" (.literal (.str "a" false))) := by
    rw [readOperand, hstrip]
    show readQuoted "'a'#''".toList = _
    rw [readQuoted, hvalue]
    rfl
  have hremark : LeavesRemark "'a'#''".toList :=
    ⟨_, _, .string hnext, [], "''".toList, .nil, by decide, rfl⟩
  obtain ⟨value, marked, -, heq, -, -, -, hswallows⟩ := readOperand_quoted [] (by decide) hread
  rw [hstrip] at hswallows
  exact ⟨_, hread, rfl, (hswallows hremark).left .eq _ (by decide)⟩

end Term

end Curly
