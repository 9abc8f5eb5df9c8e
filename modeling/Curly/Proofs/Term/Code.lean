import Curly.Proofs.Expr.Number
import Curly.Proofs.Program.Generation
import Curly.Proofs.Scope
import Curly.Program

/-!
The code of simple terms is whole: the lexer goes through it wherever a mark follows it, so it goes
through the lines that are made of it.
-/

namespace Curly

open Lexeme

namespace Lexeme

/-- Whether the lexer goes through code where there is room for so many brackets, and a mark behind
it. -/
def Passes (depth : Nat) (code : String) : Prop :=
  ∀ ⦃stack : List String⦄ ⦃rest : List Char⦄, stack.length + depth ≤ bracketLimit → Breaks rest →
    Goes stack rest → Goes stack (code.toList ++ rest)

variable {depth : Nat}

theorem passes_word {w : String} (hw : isPlainWord w.toList = true) : Passes depth w :=
  fun _ _ _ hrest h => goes_word hw hrest h

theorem passes_ofString (s : String) : Passes depth (Text.Quoted.ofString s) :=
  fun _ _ _ hrest h => goes_encode s hrest h

theorem ReadsAs.passes {code : String} {ks : List Lexeme} (h : ReadsAs depth code.toList ks) :
    Passes depth code := by
  intro stack rest hroom hrest hgoes
  rw [Goes, h hroom hrest, Option.isSome_map]
  exact hgoes

/-- The lexemes of a call with two arguments. -/
theorem ReadsAs.call {f : String} (hf : isPlainWord f.toList = true) {a b : String}
    {ks ks' : List Lexeme} (ha : ReadsAs depth a.toList ks) (hb : ReadsAs depth b.toList ks') :
    ReadsAs (depth + 1) (Term.callCode f [a, b]).toList
      (ofWord f.toList :: .op "(" :: (ks ++ .op "," :: (ks' ++ [.op ")"]))) := by
  intro stack rest hroom hrest
  have hroom' : (")" :: stack).length + depth ≤ bracketLimit := by
    simp only [List.length_cons]
    omega
  have hcode : (Term.callCode f [a, b]).toList ++ rest =
      f.toList ++ '(' :: (a.toList ++ ',' :: ' ' :: (b.toList ++ ')' :: rest)) := by
    simp [Term.callCode, commas]
  rw [hcode, scan_word hf (breaks_cons (by decide) _), scan_open (by omega),
    ha hroom' (breaks_cons (by decide) _), scan_comma, scan_normalizeLines_blank,
    hb hroom' (breaks_cons (by decide) _), scan_close]
  simp [Function.comp_def]

theorem Passes.mono {d : Nat} {code : String} (h : Passes d code) (hd : d ≤ depth) :
    Passes depth code := fun _ _ hroom hrest hgoes => h (by omega) hrest hgoes

/-- Codes with commas between them, in front of a mark. -/
theorem passes_commas {codes : List String} (hcodes : ∀ code ∈ codes, Passes depth code) :
    Passes depth (commas codes) := by
  intro stack rest hroom hrest h
  induction codes with
  | nil =>
      rw [commas, String.intercalate_nil]
      exact h
  | cons a codes ih =>
      obtain ⟨ha, hcodes⟩ := List.forall_mem_cons.1 hcodes
      cases codes with
      | nil =>
          rw [commas, String.intercalate_singleton]
          exact ha hroom hrest h
      -- A comma breaks the first code off, and a blank behind it changes nothing.
      | cons b codes =>
          have hgoes := ha hroom (breaks_cons (by decide) _) (goes_comma (goes_blank (ih hcodes)))
          rw [commas, String.intercalate_cons_cons, String.toList_append, String.toList_append,
            List.append_assoc, List.append_assoc]
          exact hgoes

/-- A call in front of anything. -/
theorem goes_call {f : String} (hf : isPlainWord f.toList = true) {codes : List String}
    (hcodes : ∀ code ∈ codes, Passes depth code) {stack : List String} {rest : List Char}
    (hroom : stack.length + depth + 1 ≤ bracketLimit) (h : Goes stack rest) :
    Goes stack ((Term.callCode f codes).toList ++ rest) := by
  have hinner : Goes (")" :: stack) ((commas codes).toList ++ ')' :: rest) :=
    passes_commas hcodes (by simp only [List.length_cons]; omega) (breaks_cons (by decide) _)
      (goes_close h)
  have hgoes := goes_word hf (breaks_cons (by decide) _) (goes_open (by omega) hinner)
  rw [Term.callCode, String.toList_append, String.toList_append, String.toList_append]
  simpa using hgoes

theorem passes_call {f : String} (hf : isPlainWord f.toList = true) {codes : List String}
    (hcodes : ∀ code ∈ codes, Passes depth code) : Passes (depth + 1) (Term.callCode f codes) :=
  fun _ _ hroom _ h => goes_call hf hcodes hroom h

/-- Code that begins with a lexeme is whole exactly if the lexer goes through it. -/
theorem isSome_ofText_iff {c : Char} {s : List Char} (hc : BeginsLexeme c) :
    (ofText (c :: s)).isSome = true ↔ Goes [] (c :: s) := by
  rw [ofText_eq_scan hc]
  exact Iff.rfl

/-! ### Code for which there is no room -/

/-- Whether the lexer stops in code where there is no room for so many brackets. -/
def Needs (depth : Nat) (code : String) : Prop :=
  ∀ ⦃stack : List String⦄ ⦃rest : List Char⦄, stack.length ≤ bracketLimit →
    bracketLimit < stack.length + depth → ¬Goes stack (code.toList ++ rest)

theorem needs_zero (code : String) : Needs 0 code :=
  fun _ _ hstack hroom => absurd hroom (Nat.not_lt.2 hstack)

/-- In a bracket there is room for one bracket less. -/
theorem Needs.not_goes {code : String} (h : Needs depth code) {stack : List String}
    {rest : List Char} (hroom : bracketLimit < stack.length + (depth + 1)) :
    ¬Goes stack ('(' :: (code.toList ++ rest)) := by
  obtain hlt | hfull := Nat.lt_or_ge stack.length bracketLimit
  · rw [Goes, scan_open hlt, Option.isSome_map]
    exact h hlt (by simp only [List.length_cons]; omega)
  · exact not_goes_open hfull

/-- A call needs one bracket more than its first argument. -/
theorem needs_call {f a : String} (hf : isPlainWord f.toList = true) (ha : Needs depth a)
    (codes : List String) : Needs (depth + 1) (Term.callCode f (a :: codes)) := by
  intro stack rest _ hroom
  -- the first argument stands right behind the bracket, whatever stands behind it
  have hcode : ∃ behind, (Term.callCode f (a :: codes)).toList ++ rest =
      f.toList ++ '(' :: (a.toList ++ behind) := by
    cases codes with
    | nil => exact ⟨')' :: rest, by simp [Term.callCode, commas]⟩
    | cons b codes =>
        exact ⟨", ".toList ++ ((commas (b :: codes)).toList ++ ')' :: rest),
          by simp [Term.callCode, commas]⟩
  obtain ⟨behind, hcode⟩ := hcode
  rw [hcode, Goes, scan_word hf (breaks_cons (by decide) _), Option.isSome_map]
  exact ha.not_goes hroom

theorem needs_parens {a : String} (ha : Needs depth a) : Needs (depth + 1) ("(" ++ a ++ ")") := by
  intro stack rest _ hroom
  have hstops : ¬Goes stack ('(' :: (a.toList ++ ')' :: rest)) := ha.not_goes hroom
  simpa using hstops

end Lexeme

/-! ### Names -/

theorem isPlainWord_append {w s : List Char} (hw : isPlainWord w = true)
    (hs : ∀ c ∈ s, isPlainChar c = true) : isPlainWord (w ++ s) = true := by
  cases w with
  | nil => cases hw
  | cons c w =>
      rw [isPlainWord, Bool.and_eq_true, List.all_eq_true] at hw
      rw [List.cons_append, isPlainWord, Bool.and_eq_true, List.all_eq_true]
      exact ⟨hw.1, List.forall_mem_append.2 ⟨hw.2, hs⟩⟩

/-- The names of loops are words. -/
theorem isPlainWord_of_isOfLoop {id : String} (h : LoopNames.IsOfLoop id) :
    isPlainWord id.toList = true := by
  obtain ⟨n, hn⟩ := h
  obtain ⟨stem, hstem, hid⟩ := LoopNames.toList_of_mem_all hn
  have hstems : LoopNames.stems.all (fun s => isPlainWord (loopLead.toList ++ s)) = true := by
    decide
  rw [hid, ← List.append_assoc]
  refine isPlainWord_append (List.all_eq_true.1 hstems stem hstem) fun c hc => ?_
  rw [isPlainChar, Char.isAlphanum, Nat.isDigit_of_mem_toDigits (by decide) (by decide) hc]
  simp

theorem isPlainWord_helper (which : Helper) : isPlainWord which.name.toList = true := by
  cases which <;> decide

namespace Term

variable {bindings : List String} {t : Term}

/-- The lexemes of a simple operand. -/
theorem IsOperand.exists_readsAs (hb : ∀ b ∈ bindings, isPlainWord b.toList = true)
    (ht : t.IsOperand bindings) : ∃ ks, ReadsAs 1 t.code.toList ks := by
  cases ht with
  | this hbinding => exact ⟨_, (readsAs_word (hb _ hbinding)).mono (by decide)⟩
  | path hbase hpath =>
      exact ⟨_, (readsAs_word (hb _ hbase)).call (isPlainWord_helper .lookup) (readsAs_encode _)⟩
  | text value marked hquoted h =>
      obtain ⟨l, hreads⟩ := exists_readsAs_string h hquoted
      rw [code, String.toList_ofList]
      exact ⟨_, hreads.mono (by decide)⟩
  | integer hn =>
      obtain ⟨ks, hreads⟩ := exists_readsAs_integer hn
      exact ⟨ks, hreads.mono (by decide)⟩
  | double x =>
      obtain ⟨ks, hreads⟩ := exists_readsAs_double x
      exact ⟨ks, hreads.mono (by decide)⟩

theorem IsOperand.passes (hb : ∀ b ∈ bindings, isPlainWord b.toList = true)
    (ht : t.IsOperand bindings) : Passes 1 t.code := by
  obtain ⟨ks, h⟩ := ht.exists_readsAs hb
  exact h.passes

/-- Two terms with a word between them, in brackets. -/
theorem passes_connective {w : List Char} (hw : isPlainWord w = true) {mid : String}
    (hmid : mid.toList = ' ' :: (w ++ [' '])) {depth : Nat} {a b : String} (ha : Passes depth a)
    (hb : Passes depth b) : Passes (depth + 1) ("(" ++ a ++ mid ++ b ++ ")") := by
  intro stack rest hroom hrest h
  -- both codes stand inside of the brackets, so there is room for one bracket less
  have hroom' : (")" :: stack).length + depth ≤ bracketLimit := by
    simp only [List.length_cons]
    omega
  have hclose := hb hroom' (breaks_cons (by decide) _) (goes_close h)
  have hword := goes_blank (goes_word hw (breaks_cons (by decide) _) (goes_blank hclose))
  have hgoes := goes_open (by omega) (ha hroom' (breaks_cons (by decide) _) hword)
  simpa [hmid] using hgoes

/-- Code in brackets. -/
theorem passes_parens {depth : Nat} {a : String} (ha : Passes depth a) :
    Passes (depth + 1) ("(" ++ a ++ ")") := by
  intro stack rest hroom hrest h
  have hclose : Goes (")" :: stack) (a.toList ++ ')' :: rest) :=
    ha (by simp only [List.length_cons]; omega) (breaks_cons (by decide) _) (goes_close h)
  have hgoes := goes_open (by omega) hclose
  simpa using hgoes

/-- A negated term, in brackets. -/
theorem passes_not {depth : Nat} {a : String} (ha : Passes depth a) :
    Passes (depth + 1) ("(not " ++ a ++ ")") := by
  intro stack rest hroom hrest h
  have hclose : Goes (")" :: stack) (a.toList ++ ')' :: rest) :=
    ha (by simp only [List.length_cons]; omega) (breaks_cons (by decide) _) (goes_close h)
  have hword := goes_word (w := "not".toList) (by decide) (breaks_cons (by decide) _)
    (goes_blank hclose)
  have hgoes := goes_open (by omega) hword
  simpa using hgoes

/-- The code of a comparison, if that of its operands is whole. -/
theorem passes_comparison {depth : Nat} (op : Operator) {l r : Term} (hl : Passes depth l.code)
    (hr : Passes depth r.code) : Passes (depth + 2) (comparison op l r).code := by
  have hequal : Passes (depth + 1) (callCode Helper.strictEqual.name [l.code, r.code]) :=
    passes_call (isPlainWord_helper _) (by simpa using ⟨hl, hr⟩)
  have hcompare (word : String) :
      Passes (depth + 1)
        (callCode Helper.compare.name [Text.Quoted.ofString word, l.code, r.code]) :=
    passes_call (isPlainWord_helper _) (by simpa using ⟨passes_ofString word, hl, hr⟩)
  cases op with
  | eq => exact hequal.mono (by omega)
  | neq => exact passes_not hequal
  | and =>
      exact (passes_connective (w := "and".toList) (by decide) (by decide) hl hr).mono (by omega)
  | or =>
      exact (passes_connective (w := "or".toList) (by decide) (by decide) hl hr).mono (by omega)
  | gt | gte | lt | lte => exact (hcompare _).mono (by omega)

/-- The code of a simple term. -/
theorem Plain.passes (hb : ∀ b ∈ bindings, isPlainWord b.toList = true) (ht : t.Plain bindings) :
    Passes 3 t.code := by
  cases ht with
  | operand ht => exact (ht.passes hb).mono (by decide)
  | comparison op hl hr => exact passes_comparison op (hl.passes hb) (hr.passes hb)
  | truthy he =>
      exact (passes_call (f := "bool") (by decide) (by simpa using he.passes hb)).mono (by decide)

end Term

end Curly
