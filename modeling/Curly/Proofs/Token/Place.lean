import Curly.Token
import Mathlib.Data.List.Induction

/-!
Places: walking through a text comes to the place that the text itself gives to each offset. The
line counts the line ends before it, the column the characters since the last one.
-/

namespace Curly.Place

/-- The place in a text at an offset. -/
def inText (s : List Char) (n : Nat) : Place where
  offset := n
  line := (s.take n).count '\n' + 1
  column := ((s.take n).reverse.takeWhile (· ≠ '\n')).length + 1

/-- A place stands before another one on its line, or its line is an earlier one. -/
def Before (p q : Place) : Prop := p.line < q.line ∨ p.line = q.line ∧ p.column < q.column

theorem Before.trans {p q r : Place} (h : p.Before q) (h' : q.Before r) : p.Before r := by
  unfold Before at *
  omega

/-- A place depends on the text before it only. -/
theorem inText_append (s t : List Char) : inText (s ++ t) s.length = inText s s.length := by
  simp [inText]

theorem inText_length (s : List Char) :
    inText s s.length =
      ⟨s.length, s.count '\n' + 1, (s.reverse.takeWhile (· ≠ '\n')).length + 1⟩ := by
  rw [inText, List.take_length]

/-- Walking through a text comes to its end. -/
theorem advance_start (s : List Char) : start.advance s = inText s s.length := by
  induction s using List.reverseRecOn with
  | nil => rfl
  | append_singleton s c ih =>
      rw [advance_append, ih, inText_length, inText_length, advance_cons, advance_nil, next]
      by_cases hc : c = '\n'
      · simp [hc]
      · simp [hc]

@[simp]
theorem offset_advance (p : Place) (s : List Char) :
    (p.advance s).offset = p.offset + s.length := by
  induction s generalizing p with
  | nil => rfl
  | cons c s ih =>
      rw [advance_cons, ih, next]
      split
      · simp only [List.length_cons]
        omega
      · simp only [List.length_cons]
        omega

theorem before_next (p : Place) (c : Char) : p.Before (p.next c) := by
  rw [next]
  split
  · exact .inl (Nat.lt_succ_self _)
  · exact .inr ⟨rfl, Nat.lt_succ_self _⟩

/-- Walking leads to later places. -/
theorem before_advance (p : Place) {s : List Char} (hs : s ≠ []) : p.Before (p.advance s) := by
  induction s generalizing p with
  | nil => exact absurd rfl hs
  | cons c s ih =>
      rw [advance_cons]
      by_cases h : s = []
      · rw [h, advance_nil]
        exact before_next p c
      · exact (before_next p c).trans (ih (p.next c) h)

end Curly.Place
