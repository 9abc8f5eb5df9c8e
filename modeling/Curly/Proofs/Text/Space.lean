import Curly.Text.Space
import Mathlib.Data.List.DropRight

/-!
Trimming: a trimmed text is a part of the text, and a text is trimmed already if neither of its ends
is white space.
-/

namespace Curly.Text

theorem stripEnd_eq_rdropWhile (s : List Char) : stripEnd s = s.rdropWhile isSpace := rfl

theorem stripStart_suffix (s : List Char) : stripStart s <:+ s := List.dropWhile_suffix isSpace

theorem stripEnd_isPrefix (s : List Char) : stripEnd s <+: s := List.rdropWhile_prefix isSpace s

theorem strip_isInfix (s : List Char) : strip s <:+: s :=
  (stripEnd_isPrefix (stripStart s)).isInfix.trans (stripStart_suffix s).isInfix

theorem stripStart_eq_self_iff {s : List Char} :
    stripStart s = s ↔ ∀ c ∈ s.head?, isSpace c = false := by
  cases s with
  | nil => simp [stripStart]
  | cons c cs => simp [stripStart]

theorem stripEnd_eq_self_iff {s : List Char} :
    stripEnd s = s ↔ ∀ c ∈ s.getLast?, isSpace c = false := by
  rw [stripEnd_eq_rdropWhile, List.rdropWhile_eq_self_iff]
  cases s using List.reverseRecOn with
  | nil => simp
  | append_singleton s c => simp

/-- A text is trimmed if neither end is white space. -/
theorem strip_eq_self_iff {s : List Char} :
    strip s = s ↔
      (∀ c ∈ s.head?, isSpace c = false) ∧ ∀ c ∈ s.getLast?, isSpace c = false := by
  rw [← stripStart_eq_self_iff, ← stripEnd_eq_self_iff]
  constructor
  · intro h
    -- What is cut at the end does not come back, so nothing was cut at the start.
    have hstart : stripStart s = s := by
      refine (stripStart_suffix s).eq_of_length_le ?_
      have hle := (stripEnd_isPrefix (stripStart s)).length_le
      rwa [← strip, h] at hle
    refine ⟨hstart, ?_⟩
    rwa [strip, hstart] at h
  · rintro ⟨hstart, hend⟩
    rw [strip, hstart, hend]

/-- Trimming twice is trimming once. -/
theorem strip_strip (s : List Char) : strip (strip s) = strip s := by
  have hstart : stripStart (strip s) = strip s := by
    rw [stripStart_eq_self_iff]
    intro c hc
    -- the first character is that of the text without leading white space
    obtain ⟨rest, hrest⟩ := stripEnd_isPrefix (stripStart s)
    obtain ⟨cs, hcs⟩ := List.head?_eq_some_iff.1 hc
    have hhead : (stripStart s).head? = some c := by
      rw [← hrest, ← strip, hcs]
      rfl
    exact stripStart_eq_self_iff.1 (List.dropWhile_idempotent isSpace s) c hhead
  rw [strip, hstart]
  exact List.rdropWhile_idempotent isSpace (stripStart s)

/-- White space in front is trimmed. -/
theorem strip_cons {c : Char} (hc : isSpace c = true) (s : List Char) :
    strip (c :: s) = strip s := by
  rw [strip, strip, stripStart, List.dropWhile_cons_of_pos hc, stripStart]

/-- White space at the end is trimmed. -/
theorem strip_concat {c : Char} (hc : isSpace c = true) (s : List Char) :
    strip (s ++ [c]) = strip s := by
  rw [strip, strip, stripStart, stripStart, List.dropWhile_append]
  split
  · rename_i hs
    rw [List.isEmpty_iff.1 hs, List.dropWhile_cons_of_pos hc]
    rfl
  · rw [stripEnd_eq_rdropWhile, stripEnd_eq_rdropWhile, List.rdropWhile_concat_pos _ _ _ hc]

/-- The end of a text is trimmed, and then what is in front, if the whole end is white space. -/
theorem stripEnd_append (s t : List Char) :
    stripEnd (s ++ t) = if stripEnd t = [] then stripEnd s else s ++ stripEnd t := by
  rw [stripEnd_eq_rdropWhile, stripEnd_eq_rdropWhile, stripEnd_eq_rdropWhile, List.rdropWhile,
    List.rdropWhile, List.rdropWhile, List.reverse_append, List.dropWhile_append]
  split
  · rename_i h
    rw [List.isEmpty_iff] at h
    rw [if_pos (by simp [h])]
  · rename_i h
    rw [List.isEmpty_iff] at h
    rw [if_neg (by simpa using h), List.reverse_append, List.reverse_reverse]

theorem stripEnd_cons (c : Char) (s : List Char) :
    stripEnd (c :: s) = if stripEnd s = [] ∧ isSpace c = true then [] else c :: stripEnd s := by
  rw [← List.singleton_append, stripEnd_append, stripEnd_eq_rdropWhile [c],
    ← List.nil_append [c]]
  cases hc : isSpace c with
  | true =>
      rw [List.rdropWhile_concat_pos _ _ _ hc]
      simp
  | false =>
      rw [List.rdropWhile_concat_neg _ _ _ (by simp [hc])]
      by_cases hs : stripEnd s = []
      · simp [hs]
      · simp [hs]

/-- What ends with no white space stays. -/
theorem stripEnd_append_of_solid {s : List Char} (hs : ∀ c ∈ s.getLast?, isSpace c = false)
    (t : List Char) : stripEnd (s ++ t) = s ++ stripEnd t := by
  rw [stripEnd_append, stripEnd_eq_self_iff.2 hs]
  split
  · rename_i h
    rw [h, List.append_nil]
  · rfl

theorem stripEnd_eq_nil_iff {s : List Char} : stripEnd s = [] ↔ s.all isSpace = true := by
  rw [stripEnd_eq_rdropWhile, List.rdropWhile_eq_nil_iff, List.all_eq_true]

end Curly.Text
