import Curly.Proofs.Text.Ascii
import Curly.Proofs.Text.Word
import Curly.Term.Form
import Mathlib.Data.List.Induction

/-!
What the splitting of a comparison accepts. A text is scanned from its start: a quote is open or
not, its next character is taken as it is or not, and some parentheses are open. Between two places
where nothing is open stand the atoms, and the parts of a text are its longest atoms, with white
space between them.

The splitting keeps the scan and the parts in one record, so each of its states is a position of the
scan with the parts that are done (`Splitting.ofPosition`), and one step either ends a part or takes
the step of the scan (`Splitting.step_top`, `Splitting.step_ofPosition`).
-/

namespace Curly.Form

open Text Text.Unicode

/-! ## Positions -/

/-- Where a scan stands: outside quotes, inside of one, or behind a backslash there; and how many
parentheses are open. -/
inductive Position
  | outside (depth : Nat)
  | inside (quote : Char) (depth : Nat)
  | escaped (quote : Char) (depth : Nat)
  deriving DecidableEq

namespace Position

/-- Where nothing is open. -/
def top : Position := .outside 0

/-- The position behind a character; there is none if it closes a parenthesis that is not open. -/
def next? : Position → Char → Option Position
  | .outside depth, c =>
    if c = '\'' || c = '"' then some (.inside c depth)
    else if c = '(' then some (.outside (depth + 1))
    else if c = ')' then if depth = 0 then none else some (.outside (depth - 1))
    else some (.outside depth)
  | .inside quote depth, c =>
    if c = '\\' then some (.escaped quote depth)
    else if c = quote then some (.outside depth)
    else some (.inside quote depth)
  | .escaped quote depth, _ => some (.inside quote depth)

/-- The position behind a text. -/
def after? (p : Position) (s : List Char) : Option Position := s.foldlM next? p

@[simp] theorem after?_nil (p : Position) : p.after? [] = some p := rfl

@[simp] theorem after?_cons (p : Position) (c : Char) (s : List Char) :
    p.after? (c :: s) = (p.next? c).bind (·.after? s) := by
  rw [after?, List.foldlM_cons]
  rfl

theorem after?_append (p : Position) (s t : List Char) :
    p.after? (s ++ t) = (p.after? s).bind (·.after? t) := by
  rw [after?, List.foldlM_append]
  rfl

/-- The characters that open or close something. -/
def delimiters : List Char := ['\'', '"', '(', ')']

/-- A character that opens and closes nothing leaves nothing open. -/
theorem next?_top {c : Char} (hc : c ∉ delimiters) : top.next? c = some top := by
  simp only [delimiters, List.mem_cons, List.not_mem_nil, or_false, not_or] at hc
  obtain ⟨hsingle, hdouble, hopen, hclose⟩ := hc
  simp [top, next?, hsingle, hdouble, hopen, hclose]

theorem not_mem_delimiters {p : Char → Bool} (hp : delimiters.any p = false) {c : Char}
    (hc : p c = true) : c ∉ delimiters := by
  intro hmem
  exact List.any_eq_false.1 hp c hmem hc

theorem not_mem_delimiters_of_isSpace {c : Char} (hc : isSpace c = true) : c ∉ delimiters :=
  not_mem_delimiters (by decide) hc

theorem not_mem_delimiters_of_isWord {c : Char} (hc : isWord c = true) : c ∉ delimiters :=
  not_mem_delimiters (by decide) hc

end Position

open Position

/-! ## Atoms -/

/-- Whether a text is white space, or nothing. -/
def IsBlank (s : List Char) : Prop := ∀ c ∈ s, isSpace c = true

/-- Whether every quote and every parenthesis of a text is closed, and none is closed that is not
open. -/
def IsBalanced (s : List Char) : Prop := top.after? s = some top

/-- Whether a text has no white space where nothing is open, if it is scanned from a position. -/
def NoGap (p : Position) (s : List Char) : Prop :=
  ∀ front c back, s = front ++ c :: back → p.after? front = some top → isSpace c = false

/-- A text that is balanced and is not cut by white space. -/
structure IsAtom (s : List Char) : Prop where
  ne_nil : s ≠ []
  isBalanced : IsBalanced s
  noGap : NoGap top s

/-- A text that consists of atoms and white space, in which no atom touches another one. -/
inductive IsRow : List (List Char) → List Char → Prop
  | nil {w : List Char} (hw : IsBlank w) : IsRow [] w
  | cons {w a rest : List Char} {parts : List (List Char)} (hw : IsBlank w) (ha : IsAtom a)
      (hrest : ∀ c ∈ rest.head?, isSpace c = true) (hparts : IsRow parts rest) :
      IsRow (a :: parts) (w ++ (a ++ rest))

/-- An atom at its place in a text, where nothing is open in front of it. -/
structure IsAtomAt (text front a back : List Char) : Prop where
  eq : text = front ++ (a ++ back)
  isBalanced : IsBalanced front
  isAtom : IsAtom a

/-- An atom that is part of no longer one. -/
structure IsMaximalAt (text front a back : List Char) : Prop extends
    IsAtomAt text front a back where
  maximal : ∀ front' a' back', IsAtomAt text front' a' back' →
    front' <+: front → back' <:+ back → a' = a

/-- Whether a text is a name. -/
def IsName : List Char → Prop
  | [] => False
  | c :: cs => startsName c = true ∧ ∀ d ∈ cs, isWord d = true

/-- The form of a comparison: a name and two atoms in parentheses, with white space between them. -/
structure IsComparison (op left right s : List Char) : Prop where
  isName : IsName op
  left_isAtom : IsAtom left
  right_isAtom : IsAtom right
  eq : ∃ w₀ w₁ w₂ w₃, IsBlank w₀ ∧ IsBlank w₁ ∧ IsBlank w₂ ∧ IsBlank w₃ ∧ w₁ ≠ [] ∧ w₂ ≠ [] ∧
    s = '(' :: (w₀ ++ op ++ w₁ ++ left ++ w₂ ++ right ++ w₃ ++ [')'])

theorem IsBlank.nil : IsBlank [] := fun _ hc => nomatch hc

theorem isBlank_cons {c : Char} {s : List Char} :
    IsBlank (c :: s) ↔ isSpace c = true ∧ IsBlank s := List.forall_mem_cons

theorem IsBlank.head {w : List Char} (hw : IsBlank w) : ∀ c ∈ w.head?, isSpace c = true :=
  fun c hc => hw c (List.mem_of_mem_head? hc)

theorem IsBlank.head_append {w : List Char} (hw : IsBlank w) (hne : w ≠ []) (s : List Char) :
    ∀ c ∈ (w ++ s).head?, isSpace c = true := by
  obtain ⟨d, w, rfl⟩ := List.exists_cons_of_ne_nil hne
  intro c hc
  cases hc
  exact hw d (List.mem_cons_self)

theorem IsBalanced.nil : IsBalanced [] := rfl

theorem IsBalanced.after_append {s : List Char} (hs : IsBalanced s) (t : List Char) :
    top.after? (s ++ t) = top.after? t := by
  rw [after?_append, hs]
  rfl

/-- What stands behind a balanced text is balanced if the whole is. -/
theorem IsBalanced.append_iff {s : List Char} (hs : IsBalanced s) {t : List Char} :
    IsBalanced (s ++ t) ↔ IsBalanced t := by
  rw [IsBalanced, hs.after_append, IsBalanced]

theorem IsBlank.isBalanced {w : List Char} (hw : IsBlank w) : IsBalanced w := by
  induction w with
  | nil => rfl
  | cons c w ih =>
      rw [isBlank_cons] at hw
      rw [IsBalanced, after?_cons, next?_top (not_mem_delimiters_of_isSpace hw.1)]
      exact ih hw.2

/-- The white space of an atom does not stand behind a balanced front of it. -/
theorem IsAtom.isSpace_eq_false {a front back : List Char} {c : Char} (ha : IsAtom a)
    (heq : a = front ++ c :: back) (hfront : IsBalanced front) : isSpace c = false :=
  ha.noGap front c back heq hfront

/-- An atom begins with no white space. -/
theorem IsAtom.head {a : List Char} (ha : IsAtom a) :
    ∃ c s, a = c :: s ∧ isSpace c = false := by
  cases a with
  | nil => exact absurd rfl ha.ne_nil
  | cons c s => exact ⟨c, s, rfl, ha.noGap [] c s rfl IsBalanced.nil⟩

theorem NoGap.nil (p : Position) : NoGap p [] := by
  intro front c back h
  cases front <;> cases h

/-- A text has no gap if it does not begin with one, and has none behind its first character. -/
theorem noGap_cons {p next : Position} {c : Char} {s : List Char} (hnext : p.next? c = some next) :
    NoGap p (c :: s) ↔ (p = top → isSpace c = false) ∧ NoGap next s := by
  constructor
  · intro h
    refine ⟨fun hp => h [] c s rfl (by rw [hp]; rfl), ?_⟩
    intro front d back heq hfront
    refine h (c :: front) d back (by rw [heq]; rfl) ?_
    rw [after?_cons, hnext]
    exact hfront
  · rintro ⟨hhead, htail⟩ front d back heq hfront
    cases front with
    | nil =>
        cases heq
        rw [after?_nil] at hfront
        exact hhead (Option.some.inj hfront)
    | cons e front =>
        cases heq
        rw [after?_cons, hnext] at hfront
        exact htail front d back rfl hfront

/-- What begins a name may stand in a word. -/
theorem isWord_of_startsName {c : Char} (hc : startsName c = true) : isWord c = true := by
  rw [startsName, Bool.or_eq_true] at hc
  rcases hc with hletter | hlow
  · have hlt : c.toNat < 128 := by
      have hle := toNat_of_isAlpha hletter
      omega
    simp [isWord, isAlphanumeric, isLetter, hlt, hletter]
  · rw [isWord, hlow, Bool.true_or]

theorem isBalanced_of_isWord {s : List Char} (hs : ∀ c ∈ s, isWord c = true) : IsBalanced s := by
  induction s with
  | nil => rfl
  | cons c s ih =>
      rw [List.forall_mem_cons] at hs
      rw [IsBalanced, after?_cons, next?_top (not_mem_delimiters_of_isWord hs.1)]
      exact ih hs.2

/-- The characters of a name. -/
theorem IsName.isWord {s : List Char} (hs : IsName s) : ∀ c ∈ s, isWord c = true := by
  cases s with
  | nil => exact hs.elim
  | cons c s => exact List.forall_mem_cons.2 ⟨isWord_of_startsName hs.1, hs.2⟩

/-- Names are atoms, for white space stands in no word. -/
theorem IsName.isAtom {s : List Char} (hs : IsName s) : IsAtom s where
  ne_nil := by
    rintro rfl
    exact hs
  isBalanced := isBalanced_of_isWord hs.isWord
  noGap := by
    intro front c back heq _
    have hc : Unicode.isWord c = true := hs.isWord c (by rw [heq]; simp)
    cases hspace : isSpace c with
    | false => rfl
    | true =>
        rw [isWord_of_isSpace hspace] at hc
        cases hc

/-- An atom is a name if it is an identifier: the line feed that may stand behind an identifier is
white space, which does not end an atom. -/
theorem isName_iff_isIdentifier {s : List Char} (hs : IsAtom s) :
    isIdentifier s = true ↔ IsName s := by
  have hplain : s.getLast? ≠ some '\n' → (isIdentifier s = true ↔ IsName s) := by
    intro hlast
    rw [isIdentifier, dropFinalNewline, if_neg hlast]
    cases s with
    | nil => simp [IsName]
    | cons c s => simp [IsName]
  by_cases hlast : s.getLast? = some '\n'
  · obtain ⟨front, rfl⟩ := List.getLast?_eq_some_iff.1 hlast
    -- an atom does not end in white space behind a balanced front
    have hno : ¬IsBalanced front := fun hfront =>
      absurd (hs.isSpace_eq_false rfl hfront) (by decide)
    constructor
    · intro hid
      rw [isIdentifier, dropFinalNewline, if_pos hlast, List.dropLast_concat] at hid
      cases front with
      | nil => cases hid
      | cons c front =>
          rw [Bool.and_eq_true, List.all_eq_true] at hid
          exact absurd (isBalanced_of_isWord (IsName.isWord (s := c :: front) hid)) hno
    · intro hname
      have hword := hname.isWord '\n' (by simp)
      cases hword
  · exact hplain hlast

/-! ## The parts of a balanced text -/

/-- A text that is balanced can be cut before its first gap. -/
theorem exists_cut {p : Position} {s : List Char} (hs : p.after? s = some top) :
    ∃ a rest, s = a ++ rest ∧ p.after? a = some top ∧ NoGap p a ∧
      ∀ c ∈ rest.head?, isSpace c = true := by
  induction s generalizing p with
  | nil => exact ⟨[], [], rfl, hs, .nil p, fun c hc => by cases hc⟩
  | cons c s ih =>
      by_cases hgap : p = top ∧ isSpace c = true
      · refine ⟨[], c :: s, rfl, by rw [hgap.1]; rfl, .nil p, fun d hd => ?_⟩
        cases hd
        exact hgap.2
      · rw [after?_cons, Option.bind_eq_some_iff] at hs
        obtain ⟨next, hnext, hs⟩ := hs
        obtain ⟨a, rest, rfl, ha, hno, hrest⟩ := ih hs
        refine ⟨c :: a, rest, rfl, ?_, ?_, hrest⟩
        · rw [after?_cons, hnext]
          exact ha
        · rw [noGap_cons hnext]
          exact ⟨fun hp => Bool.eq_false_iff.2 fun hc => hgap ⟨hp, hc⟩, hno⟩

/-- Every text without unbalanced quotes and parentheses is a row of atoms. -/
theorem IsBalanced.exists_isRow : (s : List Char) → IsBalanced s → ∃ parts, IsRow parts s := by
  intro s hs
  have hsplit : s.takeWhile isSpace ++ s.dropWhile isSpace = s := List.takeWhile_append_dropWhile
  have hblank : IsBlank (s.takeWhile isSpace) := List.all_eq_true.1 List.all_takeWhile
  cases ht : s.dropWhile isSpace with
  | nil =>
      rw [ht, List.append_nil] at hsplit
      rw [← hsplit]
      exact ⟨[], .nil hblank⟩
  | cons c t =>
      have hc : isSpace c = false := by
        have hhead := List.head?_dropWhile_not isSpace s
        rw [ht] at hhead
        simpa using hhead
      rw [ht] at hsplit
      rw [← hsplit, hblank.isBalanced.append_iff] at hs
      -- the first atom is cut off, and what is left is shorter
      obtain ⟨a, rest, heq, ha, hno, hrest⟩ := exists_cut hs
      have hne : a ≠ [] := by
        rintro rfl
        rw [List.nil_append] at heq
        subst heq
        rw [hrest c rfl] at hc
        cases hc
      have hatom : IsAtom a := ⟨hne, ha, hno⟩
      rw [heq, hatom.isBalanced.append_iff] at hs
      have hlt : rest.length < s.length := by
        have hpos := List.length_pos_iff.2 hne
        rw [← hsplit, heq, List.length_append, List.length_append]
        omega
      obtain ⟨parts, hparts⟩ := IsBalanced.exists_isRow rest hs
      rw [← hsplit, heq]
      exact ⟨a :: parts, .cons hblank hatom hrest hparts⟩
termination_by s => s.length

/-! ## The states of the splitting -/

namespace Splitting

/-- The state of a splitting at a position, with its parts and its current one reversed. -/
def ofPosition (parts : List (List Char)) (current : List Char) : Position → Splitting
  | .outside depth => ⟨parts, current, depth, none, false⟩
  | .inside quote depth => ⟨parts, current, depth, some quote, false⟩
  | .escaped quote depth => ⟨parts, current, depth, some quote, true⟩

/-- The parts that are done when the current one is ended. -/
def ended (parts : List (List Char)) (current : List Char) : List (List Char) :=
  if current.isEmpty then parts else current.reverse :: parts

theorem flush_ofPosition (parts : List (List Char)) (current : List Char) (depth : Nat) :
    (ofPosition parts current (.outside depth)).flush =
      .ofPosition (ended parts current) [] (.outside depth) := by
  cases current with
  | nil => rfl
  | cons c current => rfl

/-- White space where nothing is open ends a part. -/
theorem step_top {c : Char} (hc : isSpace c = true) (parts : List (List Char))
    (current : List Char) :
    (ofPosition parts current top).step c =
      some (.ofPosition (ended parts current) [] top) := by
  have hplain := not_mem_delimiters_of_isSpace hc
  simp only [delimiters, List.mem_cons, List.not_mem_nil, or_false, not_or] at hplain
  obtain ⟨hsingle, hdouble, hopen, hclose⟩ := hplain
  rw [top, ← flush_ofPosition]
  simp [step, ofPosition, hsingle, hdouble, hopen, hclose, hc]

/-- Every other character is taken into the current part, and the scan goes on. -/
theorem step_ofPosition {p : Position} {c : Char} (hgap : p = top → isSpace c = false)
    (parts : List (List Char)) (current : List Char) :
    (ofPosition parts current p).step c =
      (p.next? c).map (.ofPosition parts (c :: current)) := by
  cases p with
  | outside depth =>
      have hspace : (isSpace c && decide (depth = 0)) = false := by
        cases depth with
        | zero => rw [hgap rfl, Bool.false_and]
        | succ depth => simp
      simp only [step, ofPosition, next?]
      grind [ofPosition]
  | inside quote depth =>
      simp only [step, ofPosition, next?]
      grind [ofPosition]
  | escaped quote depth => rfl

/-- The state after a text stands at the position of the scan. -/
theorem exists_foldlM_step (parts : List (List Char)) (current : List Char) (p : Position)
    (s : List Char) :
    ∃ parts' current', s.foldlM step (ofPosition parts current p) =
      (p.after? s).map (ofPosition parts' current') := by
  induction s generalizing parts current p with
  | nil => exact ⟨parts, current, rfl⟩
  | cons c s ih =>
      rw [List.foldlM_cons, after?_cons]
      by_cases hgap : p = top ∧ isSpace c = true
      · obtain ⟨rfl, hc⟩ := hgap
        rw [step_top hc, next?_top (not_mem_delimiters_of_isSpace hc)]
        exact ih _ _ _
      · rw [step_ofPosition fun hp => Bool.eq_false_iff.2 fun hc => hgap ⟨hp, hc⟩]
        cases p.next? c with
        | none => exact ⟨parts, current, rfl⟩
        | some next => exact ih _ _ _

/-- A text without a gap goes into the current part. -/
theorem foldlM_step_of_noGap {p : Position} {s : List Char} (hno : NoGap p s)
    (parts : List (List Char)) (current : List Char) :
    s.foldlM step (ofPosition parts current p) =
      (p.after? s).map (ofPosition parts (s.reverse ++ current)) := by
  induction s generalizing p current with
  | nil => rfl
  | cons c s ih =>
      rw [List.foldlM_cons, after?_cons, step_ofPosition fun hp => hno [] c s rfl (by rw [hp]; rfl)]
      cases hnext : p.next? c with
      | none => rfl
      | some next =>
          rw [List.reverse_cons, List.append_assoc]
          exact ih ((noGap_cons hnext).1 hno).2 (c :: current)

/-- White space ends the current part, if there is one. -/
theorem foldlM_step_of_isBlank {w : List Char} (hw : IsBlank w) {current : List Char}
    (hend : current = [] ∨ w ≠ []) (parts : List (List Char)) :
    w.foldlM step (ofPosition parts current top) =
      some (ofPosition (ended parts current) [] top) := by
  induction w generalizing parts current with
  | nil =>
      obtain rfl | hne := hend
      · rfl
      · exact absurd rfl hne
  | cons c w ih =>
      rw [isBlank_cons] at hw
      rw [List.foldlM_cons, step_top hw.1]
      exact ih hw.2 (.inl rfl) _

/-- The parts of the text that a state has gone through. -/
def finish (s : Splitting) : Option (List (List Char)) := do
  if s.quote.isSome || s.depth != 0 then none
  return s.flush.parts.reverse

theorem finish_top (parts : List (List Char)) (current : List Char) :
    (ofPosition parts current top).finish = some (ended parts current).reverse := by
  cases current with
  | nil => rfl
  | cons c current => rfl

theorem finish_eq_none {p : Position} (hp : p ≠ top) (parts : List (List Char))
    (current : List Char) : (ofPosition parts current p).finish = none := by
  cases p with
  | outside depth =>
      cases depth with
      | zero => exact absurd rfl hp
      | succ depth => rfl
  | inside quote depth => rfl
  | escaped quote depth => rfl

/-- A row is split into its atoms, if it does not touch the current part. -/
theorem finish_of_isRow {atoms : List (List Char)} {s : List Char} (hs : IsRow atoms s)
    {parts : List (List Char)} {current : List Char}
    (hend : current = [] ∨ ∀ c ∈ s.head?, isSpace c = true) :
    (s.foldlM step (ofPosition parts current top)).bind finish =
      some ((ended parts current).reverse ++ atoms) := by
  induction hs generalizing parts current with
  | @nil w hw =>
      rw [List.append_nil]
      by_cases hne : w = []
      · rw [hne]
        exact finish_top parts current
      · rw [foldlM_step_of_isBlank hw (.inr hne)]
        exact finish_top _ []
  | @cons w a rest atoms hw ha hrest hatoms ih =>
      -- the white space in front of the atom ends the current part, if there is one
      have hend' : current = [] ∨ w ≠ [] := by
        obtain hcurrent | hhead := hend
        · exact .inl hcurrent
        · right
          rintro rfl
          obtain ⟨c, s, rfl, hc⟩ := ha.head
          rw [hhead c rfl] at hc
          cases hc
      have hatom := foldlM_step_of_noGap ha.noGap (ended parts current) []
      rw [ha.isBalanced, List.append_nil] at hatom
      rw [List.foldlM_append, foldlM_step_of_isBlank hw hend', Option.bind_eq_bind,
        Option.bind_some, List.foldlM_append, hatom]
      refine (ih (.inr hrest)).trans ?_
      rw [ended, if_neg (by simpa using ha.ne_nil), List.reverse_reverse, List.reverse_cons,
        List.append_assoc]
      rfl

end Splitting

/-- The parts of a text, by the states of the splitting. -/
theorem topLevelParts?_eq (s : List Char) :
    topLevelParts? s =
      (s.foldlM Splitting.step (.ofPosition [] [] top)).bind Splitting.finish := rfl

/-- A row is split into its atoms. -/
theorem IsRow.topLevelParts? {atoms : List (List Char)} {s : List Char} (hs : IsRow atoms s) :
    topLevelParts? s = some atoms := by
  rw [topLevelParts?_eq, Splitting.finish_of_isRow hs (.inl rfl)]
  rfl

/-- A text is split unless its quotes or parentheses are unbalanced. -/
theorem topLevelParts?_eq_none_iff {s : List Char} :
    topLevelParts? s = none ↔ ¬IsBalanced s := by
  constructor
  · intro hnone hs
    obtain ⟨parts, hparts⟩ := hs.exists_isRow
    rw [hparts.topLevelParts?] at hnone
    cases hnone
  · intro hs
    obtain ⟨parts, current, hfold⟩ := Splitting.exists_foldlM_step [] [] top s
    rw [topLevelParts?_eq, hfold]
    cases hp : top.after? s with
    | none => rfl
    | some p =>
        have hne : p ≠ top := by
          rintro rfl
          exact hs hp
        exact Splitting.finish_eq_none hne parts current

/-- The parts of a text are those of which it is a row. -/
theorem topLevelParts?_eq_some_iff {s : List Char} {parts : List (List Char)} :
    topLevelParts? s = some parts ↔ IsRow parts s := by
  constructor
  · intro hs
    have hbalanced : IsBalanced s := by
      by_cases hb : IsBalanced s
      · exact hb
      · rw [topLevelParts?_eq_none_iff.2 hb] at hs
        cases hs
    obtain ⟨parts', hparts⟩ := hbalanced.exists_isRow
    rw [hparts.topLevelParts?] at hs
    cases hs
    exact hparts
  · exact IsRow.topLevelParts?

/-! ## The longest atoms -/

theorem IsRow.isBalanced {parts : List (List Char)} {s : List Char} (hs : IsRow parts s) :
    IsBalanced s := by
  induction hs with
  | nil hw => exact hw.isBalanced
  | cons hw ha hrest hparts ih => rwa [hw.isBalanced.append_iff, ha.isBalanced.append_iff]

/-- White space in front of a text is in front of every atom in it. -/
theorem IsAtom.exists_front_of_isBlank {a w s front back : List Char} (ha : IsAtom a)
    (hw : IsBlank w) (heq : w ++ s = front ++ (a ++ back)) :
    ∃ front', front = w ++ front' ∧ s = front' ++ (a ++ back) := by
  obtain ⟨front', hfront, hs⟩ | ⟨w', hw', hs⟩ := List.append_eq_append_iff.1 heq
  · exact ⟨front', hfront, hs⟩
  · obtain ⟨c, a, rfl, hc⟩ := ha.head
    cases w' with
    | nil => exact ⟨[], by rw [hw', List.append_nil, List.append_nil], hs.symm⟩
    | cons d w' =>
        -- the atom would begin with white space
        obtain ⟨rfl, -⟩ := List.cons.inj hs
        have hspace := hw c (by rw [hw']; simp)
        rw [hspace] at hc
        cases hc

/-- An atom of a text that begins with a part lies in this part or behind it. -/
theorem IsAtom.inside_or_behind {a part rest front back : List Char} (ha : IsAtom a)
    (hpart : IsAtom part) (hrest : ∀ c ∈ rest.head?, isSpace c = true)
    (hfront : IsBalanced front) (heq : part ++ rest = front ++ (a ++ back)) :
    (∃ r, part = front ++ a ++ r ∧ back = r ++ rest) ∨
      ∃ front', front = part ++ front' ∧ rest = front' ++ (a ++ back) := by
  obtain ⟨front', hfront', hs⟩ | ⟨part', hpart', hs⟩ := List.append_eq_append_iff.1 heq
  · exact .inr ⟨front', hfront', hs⟩
  · left
    obtain ⟨r, hr, hback⟩ | ⟨a', ha', hrest'⟩ := List.append_eq_append_iff.1 hs
    · exact ⟨r, by rw [hpart', hr, List.append_assoc], hback⟩
    · cases a' with
      | nil =>
          rw [List.append_nil] at ha'
          exact ⟨[], by rw [hpart', ha', List.append_nil], hrest'.symm⟩
      | cons c a' =>
          -- the white space behind the part would stand in the atom
          have hclosed : IsBalanced part' := by
            rw [← hfront.append_iff, ← hpart']
            exact hpart.isBalanced
          have hc := ha.isSpace_eq_false ha' hclosed
          rw [hrest c (by rw [hrest']; rfl)] at hc
          cases hc

/-- An atom in a row lies in one of its parts. -/
theorem IsRow.exists_part {parts : List (List Char)} {text front a back : List Char}
    (htext : IsRow parts text) (ha : IsAtomAt text front a back) :
    ∃ before l r after front' back', parts = before ++ (l ++ a ++ r) :: after ∧
      front = front' ++ l ∧ back = r ++ back' ∧ IsRow before front' ∧ IsRow after back' := by
  obtain ⟨heq, hfront, hatom⟩ := ha
  induction htext generalizing front with
  | nil hw =>
      -- an atom does not begin with white space
      obtain ⟨c, s, rfl, hc⟩ := hatom.head
      have hspace := hw c (by rw [heq]; simp)
      rw [hspace] at hc
      cases hc
  | @cons w part rest parts hw hpart hrest hparts ih =>
      obtain ⟨front₁, rfl, heq₁⟩ := hatom.exists_front_of_isBlank hw heq
      rw [hw.isBalanced.append_iff] at hfront
      obtain ⟨r, rfl, rfl⟩ | ⟨front₂, rfl, heq₂⟩ :=
        hatom.inside_or_behind hpart hrest hfront heq₁
      · exact ⟨[], front₁, r, parts, w, rest, rfl, rfl, rfl, .nil hw, hparts⟩
      · rw [hpart.isBalanced.append_iff] at hfront
        obtain ⟨before, l, r, after, front', back', rfl, rfl, rfl, hbefore, hafter⟩ :=
          ih heq₂ hfront
        refine ⟨part :: before, l, r, after, w ++ (part ++ front'), back', rfl, by simp, rfl,
          .cons hw hpart ?_ hbefore, hafter⟩
        intro c hc
        obtain ⟨s, hs⟩ := List.head?_eq_some_iff.1 hc
        exact hrest c (by rw [heq₂, hs]; rfl)

/-- Whether a text is nothing, or ends with white space where nothing is open. -/
def EndsBlank (s : List Char) : Prop :=
  s = [] ∨ ∃ front c, s = front ++ [c] ∧ IsBalanced front ∧ isSpace c = true

theorem IsBlank.endsBlank {w : List Char} (hw : IsBlank w) : EndsBlank w := by
  cases w using List.reverseRecOn with
  | nil => exact .inl rfl
  | append_singleton w c =>
      obtain ⟨hfront, hc⟩ := List.forall_mem_append.1 hw
      exact .inr ⟨w, c, rfl, IsBlank.isBalanced hfront, hc c (List.mem_singleton_self c)⟩

theorem EndsBlank.append {s t : List Char} (hs : IsBalanced s) (ht : EndsBlank t) (hne : t ≠ []) :
    EndsBlank (s ++ t) := by
  obtain rfl | ⟨front, c, rfl, hfront, hc⟩ := ht
  · exact absurd rfl hne
  · exact .inr ⟨s ++ front, c, by rw [List.append_assoc], hs.append_iff.2 hfront, hc⟩

theorem IsRow.isAtom {parts : List (List Char)} {s : List Char} (hs : IsRow parts s) :
    ∀ a ∈ parts, IsAtom a := by
  induction hs with
  | nil hw => exact fun a ha => nomatch ha
  | cons hw ha hrest hparts ih => exact List.forall_mem_cons.2 ⟨ha, ih⟩

/-- What stands behind the first part of a row. -/
theorem IsRow.behind {a w back : List Char} {parts : List (List Char)}
    (hs : IsRow (a :: parts) (w ++ (a ++ back))) (hw : IsBlank w) :
    (∀ c ∈ back.head?, isSpace c = true) ∧ IsRow parts back := by
  generalize htext : w ++ (a ++ back) = text at hs
  cases hs with
  | @cons w' _ rest _ hw' ha hrest hparts =>
      obtain ⟨w'', rfl, heq⟩ := ha.exists_front_of_isBlank hw' htext.symm
      cases w'' with
      | nil =>
          rw [List.nil_append, List.append_cancel_left_eq] at heq
          subst heq
          exact ⟨hrest, hparts⟩
      -- With more white space in front the part would begin inside of it.
      | cons d w'' =>
          obtain ⟨c, s, rfl, hc⟩ := ha.head
          obtain ⟨rfl, -⟩ := List.cons.inj heq
          rw [hw c (by simp)] at hc
          cases hc

/-- A part at its place touches nothing. -/
theorem IsRow.separated {before after : List (List Char)} {front a back : List Char}
    (htext : IsRow (before ++ a :: after) (front ++ (a ++ back))) (hbefore : IsRow before front) :
    EndsBlank front ∧ ∀ c ∈ back.head?, isSpace c = true := by
  obtain ⟨c, s, rfl, hc⟩ := (htext.isAtom a (by simp)).head
  induction hbefore with
  | nil hw => exact ⟨hw.endsBlank, (htext.behind hw).1⟩
  | @cons w b rest before hw hb hrest hbefore ih =>
      rw [List.append_assoc, List.append_assoc] at htext
      obtain ⟨hhead, hbehind⟩ := htext.behind hw
      obtain ⟨hend, hback⟩ := ih hbehind
      -- Without anything between them the next part would begin with white space.
      have hne : rest ≠ [] := by
        rintro rfl
        rw [hhead c rfl] at hc
        cases hc
      rw [← List.append_assoc]
      exact ⟨hend.append (hw.isBalanced.append_iff.2 hb.isBalanced) hne, hback⟩

/-- An atom that touches nothing is part of no longer one. -/
theorem IsAtomAt.isMaximalAt {text front a back : List Char} (ha : IsAtomAt text front a back)
    (hfront : EndsBlank front) (hback : ∀ c ∈ back.head?, isSpace c = true) :
    IsMaximalAt text front a back := by
  refine ⟨ha, fun front' a' back' ha' hpre hsuf => ?_⟩
  obtain ⟨l, rfl⟩ := hpre
  obtain ⟨r, rfl⟩ := hsuf
  have hl := ha.isBalanced
  rw [ha'.isBalanced.append_iff] at hl
  have hlonger : a' = l ++ (a ++ r) := by
    have heq := ha'.eq.symm.trans ha.eq
    rw [List.append_assoc, ← List.append_assoc a, ← List.append_assoc l] at heq
    exact List.append_cancel_right (List.append_cancel_left heq)
  have hl_nil : l = [] := by
    cases l using List.reverseRecOn with
    | nil => rfl
    | append_singleton l c =>
        obtain hnil | ⟨front, d, hend, hfront, hd⟩ := hfront
        · simp at hnil
        -- the white space in front would stand in the longer atom
        rw [← List.append_assoc] at hend
        obtain ⟨rfl, hcd⟩ := List.append_inj' hend rfl
        obtain rfl := List.singleton_inj.1 hcd
        rw [ha'.isBalanced.append_iff] at hfront
        have hsplit : a' = l ++ c :: (a ++ r) := by rw [hlonger, List.append_assoc]; rfl
        have hc := ha'.isAtom.isSpace_eq_false hsplit hfront
        rw [hd] at hc
        cases hc
  have hr_nil : r = [] := by
    cases r with
    | nil => rfl
    | cons c r =>
        -- and so would the white space behind
        have hsplit : a' = l ++ a ++ c :: r := by rw [hlonger, List.append_assoc]
        have hc := ha'.isAtom.isSpace_eq_false hsplit (hl.append_iff.2 ha.isAtom.isBalanced)
        rw [hback c rfl] at hc
        cases hc
  rw [hlonger, hl_nil, hr_nil, List.nil_append, List.append_nil]

/-- **The longest atoms of a text are its parts, in their order.** -/
theorem IsRow.isMaximalAt_iff {parts : List (List Char)} {text front a back : List Char}
    (htext : IsRow parts text) :
    IsMaximalAt text front a back ↔ ∃ before after, parts = before ++ a :: after ∧
      text = front ++ (a ++ back) ∧ IsRow before front ∧ IsRow after back := by
  constructor
  · intro hmax
    obtain ⟨before, l, r, after, front', back', rfl, rfl, rfl, hbefore, hafter⟩ :=
      htext.exists_part hmax.toIsAtomAt
    have hat : IsAtomAt text front' (l ++ a ++ r) back' :=
      ⟨by simp [hmax.eq], hbefore.isBalanced, htext.isAtom _ (by simp)⟩
    -- an atom in the text lies inside of a part, which is an atom as well, so it is this part
    have hsame := hmax.maximal _ _ _ hat (List.prefix_append front' l) (List.suffix_append r back')
    obtain ⟨rfl, rfl⟩ : l = [] ∧ r = [] := by
      have hlen := congrArg List.length hsame
      simp only [List.length_append] at hlen
      exact ⟨List.length_eq_zero_iff.1 (by omega), List.length_eq_zero_iff.1 (by omega)⟩
    refine ⟨before, after, by simp, hmax.eq, ?_, hafter⟩
    rwa [List.append_nil]
  · rintro ⟨before, after, rfl, rfl, hbefore, hafter⟩
    obtain ⟨hfront, hback⟩ := htext.separated hbefore
    exact IsAtomAt.isMaximalAt ⟨rfl, hbefore.isBalanced, htext.isAtom a (by simp)⟩ hfront hback

/-! ## Joined parts -/

/-- White space may stand in front of a row. -/
theorem IsRow.blank_append {w s : List Char} {parts : List (List Char)} (hs : IsRow parts s)
    (hw : IsBlank w) : IsRow parts (w ++ s) := by
  cases hs with
  | nil hs => exact .nil (List.forall_mem_append.2 ⟨hw, hs⟩)
  | cons hw' ha hrest hparts =>
      rw [← List.append_assoc]
      exact .cons (List.forall_mem_append.2 ⟨hw, hw'⟩) ha hrest hparts

/-- Atoms that are joined with white space are a row. -/
theorem isRow_intercalate {sep : List Char} (hsep : IsBlank sep) (hne : sep ≠ [])
    {parts : List (List Char)} (hparts : ∀ a ∈ parts, IsAtom a) :
    IsRow parts (sep.intercalate parts) := by
  induction parts with
  | nil => exact .nil .nil
  | cons a parts ih =>
      rw [List.forall_mem_cons] at hparts
      cases parts with
      | nil =>
          have hrow : IsRow [a] ([] ++ (a ++ [])) :=
            .cons .nil hparts.1 (fun c hc => nomatch hc) (.nil .nil)
          simpa using hrow
      | cons b parts =>
          have hrow :
              IsRow (a :: b :: parts) ([] ++ (a ++ (sep ++ sep.intercalate (b :: parts)))) :=
            .cons .nil hparts.1 (hsep.head_append hne _) ((ih hparts.2).blank_append hsep)
          simpa [List.intercalate] using hrow

/-! ## Comparisons -/

/-- Behind white space the first part of a row stands, and white space is in front of it. -/
theorem IsRow.exists_gap {a s : List Char} {parts : List (List Char)} (hs : IsRow (a :: parts) s)
    (hhead : ∀ c ∈ s.head?, isSpace c = true) :
    ∃ w rest, s = w ++ (a ++ rest) ∧ IsBlank w ∧ w ≠ [] ∧
      (∀ c ∈ rest.head?, isSpace c = true) ∧ IsRow parts rest := by
  cases hs with
  | @cons w _ rest _ hw ha hrest hparts =>
      refine ⟨w, rest, rfl, hw, ?_, hrest, hparts⟩
      rintro rfl
      obtain ⟨c, s, rfl, hc⟩ := ha.head
      rw [hhead c rfl] at hc
      cases hc

/-- A row of three atoms, with the white space between them. -/
theorem isRow_three_iff {op left right s : List Char} :
    IsRow [op, left, right] s ↔ IsAtom op ∧ IsAtom left ∧ IsAtom right ∧
      ∃ w₀ w₁ w₂ w₃, IsBlank w₀ ∧ IsBlank w₁ ∧ IsBlank w₂ ∧ IsBlank w₃ ∧ w₁ ≠ [] ∧ w₂ ≠ [] ∧
        s = w₀ ++ op ++ w₁ ++ left ++ w₂ ++ right ++ w₃ := by
  constructor
  · intro hs
    have hatoms := hs.isAtom
    cases hs with
    | @cons w₀ _ rest _ hw₀ hop hrest hs =>
        -- an atom begins only behind white space, so there is some between two of them
        obtain ⟨w₁, rest₁, rfl, hw₁, hne₁, hrest₁, hs₁⟩ := hs.exists_gap hrest
        obtain ⟨w₂, rest₂, rfl, hw₂, hne₂, hrest₂, hs₂⟩ := hs₁.exists_gap hrest₁
        cases hs₂ with
        | nil hw₃ =>
            refine ⟨hop, hatoms left (by simp), hatoms right (by simp), w₀, w₁, w₂, _, hw₀, hw₁,
              hw₂, hw₃, hne₁, hne₂, ?_⟩
            simp only [List.append_assoc]
  · rintro ⟨hop, hleft, hright, w₀, w₁, w₂, w₃, hw₀, hw₁, hw₂, hw₃, hne₁, hne₂, rfl⟩
    have hrow := IsRow.cons hw₀ hop (hw₁.head_append hne₁ _)
      (.cons hw₁ hleft (hw₂.head_append hne₂ _) (.cons hw₂ hright hw₃.head (.nil hw₃)))
    simpa only [List.append_assoc] using hrow

/-- A comparison is read exactly from the texts of its form. -/
theorem comparison?_eq_some_iff {op left right s : List Char} :
    comparison? s = some (op, left, right) ↔ IsComparison op left right s := by
  constructor
  · intro hs
    unfold comparison? at hs
    split at hs
    · rename_i rest
      split at hs
      · rename_i hlast
        obtain ⟨mid, rfl⟩ := List.getLast?_eq_some_iff.1 hlast
        rw [List.dropLast_concat] at hs
        split at hs
        · rename_i parts op' left' right' hparts
          split at hs
          · rename_i hid
            cases hs
            rw [topLevelParts?_eq_some_iff, isRow_three_iff] at hparts
            obtain ⟨hop, hleft, hright, w₀, w₁, w₂, w₃, hw₀, hw₁, hw₂, hw₃, hne₁, hne₂, rfl⟩ :=
              hparts
            exact ⟨(isName_iff_isIdentifier hop).1 hid, hleft, hright, w₀, w₁, w₂, w₃, hw₀, hw₁,
              hw₂, hw₃, hne₁, hne₂, rfl⟩
          · cases hs
        · cases hs
      · cases hs
    · cases hs
  · rintro ⟨hop, hleft, hright, w₀, w₁, w₂, w₃, hw₀, hw₁, hw₂, hw₃, hne₁, hne₂, rfl⟩
    -- the inside of the parentheses is a row of three atoms
    have hparts : topLevelParts? (w₀ ++ op ++ w₁ ++ left ++ w₂ ++ right ++ w₃) =
        some [op, left, right] :=
      topLevelParts?_eq_some_iff.2 (isRow_three_iff.2 ⟨hop.isAtom, hleft, hright, w₀, w₁, w₂, w₃,
        hw₀, hw₁, hw₂, hw₃, hne₁, hne₂, rfl⟩)
    have hid := (isName_iff_isIdentifier hop.isAtom).2 hop
    simp only [comparison?, List.getLast?_concat, if_true, List.dropLast_concat, hparts, hid]

/-- **Comparisons and parts are read by their grammar.** A text is read as a comparison exactly if
it has the form of one, with the parts that are told there. It is not split if its quotes or
parentheses are unbalanced; otherwise its parts are its longest atoms in their order, for in front
of each and behind it stand the parts before and after it, and they are the parts again of what they
are joined to by white space. -/
theorem splits_by_grammar (s : List Char) :
    (∀ op left right, comparison? s = some (op, left, right) ↔ IsComparison op left right s) ∧
      (topLevelParts? s = none ↔ ¬IsBalanced s) ∧
      ∀ parts, topLevelParts? s = some parts →
        IsRow parts s ∧
        (∀ front a back, IsMaximalAt s front a back ↔
          ∃ before after, parts = before ++ a :: after ∧ s = front ++ (a ++ back) ∧
            topLevelParts? front = some before ∧ topLevelParts? back = some after) ∧
        ∀ sep, IsBlank sep → sep ≠ [] → topLevelParts? (sep.intercalate parts) = some parts := by
  refine ⟨fun op left right => comparison?_eq_some_iff, topLevelParts?_eq_none_iff, ?_⟩
  intro parts hparts
  have hrow : IsRow parts s := topLevelParts?_eq_some_iff.1 hparts
  refine ⟨hrow, fun front a back => ?_, fun sep hsep hne => ?_⟩
  · simp only [topLevelParts?_eq_some_iff]
    exact hrow.isMaximalAt_iff
  · exact (isRow_intercalate hsep hne hrow.isAtom).topLevelParts?

/-- Blanks in quotes split nothing, and the parts may be joined by any others. -/
theorem splits_by_grammar_quoted :
    topLevelParts? "eq\t'a b' (x y)".toList =
        some ["eq".toList, "'a b'".toList, "(x y)".toList] ∧
      topLevelParts? (" ".toList.intercalate ["eq".toList, "'a b'".toList, "(x y)".toList]) =
        some ["eq".toList, "'a b'".toList, "(x y)".toList] := by
  have hparts : topLevelParts? "eq\t'a b' (x y)".toList =
      some ["eq".toList, "'a b'".toList, "(x y)".toList] := by decide
  have hsep : IsBlank " ".toList := List.forall_mem_cons.2 ⟨by decide, IsBlank.nil⟩
  exact ⟨hparts, ((splits_by_grammar _).2.2 _ hparts).2.2 _ hsep (by decide)⟩

end Curly.Form
