/-!
Searching in texts, and in lists of any kind: the first occurrence of a pattern, and what is built
on it (positions, pieces between separators, replacement).
-/

namespace Curly.Text

variable {α : Type} [BEq α]

/-- Cuts a text at the first occurrence of `pat`: what stands before it and what follows it. -/
def cut (pat s : List α) : Option (List α × List α) :=
  if pat.isPrefixOf s then some ([], s.drop pat.length)
  else
    match s with
    | [] => none
    | c :: cs => (cut pat cs).map fun (before, rest) => (c :: before, rest)

/-- The pattern stands where the text was cut. -/
theorem eq_of_cut [LawfulBEq α] {pat s before rest : List α} (h : cut pat s = some (before, rest)) :
    s = before ++ pat ++ rest := by
  induction s generalizing before rest with
  | nil =>
    unfold cut at h
    split at h
    · -- the pattern stands in front, so nothing is before it
      next hp =>
      obtain ⟨t, ht⟩ := List.isPrefixOf_iff_prefix.1 hp
      have : pat = [] := by simp_all
      simp_all
    · simp at h
  | cons c cs ih =>
    unfold cut at h
    split at h
    · next hp =>
      obtain ⟨t, ht⟩ := List.isPrefixOf_iff_prefix.1 hp
      simp only [Option.some.injEq, Prod.mk.injEq] at h
      obtain ⟨rfl, rfl⟩ := h
      simp [← ht]
    · obtain ⟨⟨b, r⟩, hb, he⟩ := Option.map_eq_some_iff.1 h
      simp only [Prod.mk.injEq] at he
      obtain ⟨rfl, rfl⟩ := he
      simp [ih hb]

/-- What follows the pattern leaves room for it. -/
theorem length_of_cut [LawfulBEq α] {pat s before rest : List α}
    (h : cut pat s = some (before, rest)) : rest.length + pat.length ≤ s.length := by
  simp [eq_of_cut h]; omega

/-- Where `pat` first occurs. -/
def find (pat s : List α) : Option Nat := (cut pat s).map (·.1.length)

/-- Where `pat` last occurs. -/
def findLast (pat s : List α) : Option Nat :=
  (find pat.reverse s.reverse).map fun n => s.length - pat.length - n

/-- Whether `pat` occurs in the text. -/
def contains (pat s : List α) : Bool := (cut pat s).isSome

/-- The pieces of a text between the occurrences of a separator, at most `limit` cuts. The
separator is not empty. -/
def splitOn (sep : List Char) : (limit : Nat) → List Char → List (List Char)
  | 0, s => [s]
  | limit + 1, s =>
    match cut sep s with
    | some (before, rest) => before :: splitOn sep limit rest
    | none => [s]

/-- All pieces of a text between the occurrences of a separator, which is not empty. -/
def splitAll (sep s : List Char) : List (List Char) := splitOn sep s.length s

/-- Joins pieces with a separator between neighbours. -/
def joinWith (sep : List Char) (pieces : List (List Char)) : List Char :=
  (pieces.intersperse sep).flatten

/-- Writes `mark` before each of the first `limit` characters, and at the end if any are left. -/
def spread (mark : List Char) : (limit : Nat) → List Char → List Char
  | 0, s => s
  | _ + 1, [] => mark
  | limit + 1, c :: cs => mark ++ c :: spread mark limit cs

/-- A text with the first `limit` occurrences of `old` replaced. An empty `old` occurs before
every character and at the end. -/
def replace (old new : List Char) (limit : Nat) (s : List Char) : List Char :=
  if old.isEmpty then spread new limit s else joinWith new (splitOn old limit s)

/-- How often `pat` occurs without overlap; an empty `pat` occurs at every position. -/
def occurrences (pat s : List Char) : Nat :=
  if pat.isEmpty then s.length + 1 else (splitAll pat s).length - 1

end Curly.Text
