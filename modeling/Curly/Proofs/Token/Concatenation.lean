import Curly.Proofs.Token.Segment
import Curly.Proofs.Token.Place

/-!
Lexing two texts put together. The lexer looks at nothing behind the segments of a text unless two
braces meet at the seam, so it reads the second text as if that stood alone, only further behind
(`scan_behind`). In particular it fails on a template as it does on what follows the last segment.
-/

namespace Curly

open Lexer Segment

/-- A place of a text, where another text stands in front of it. -/
def Place.behind (a b : List Char) (p : Place) : Place := .inText (a ++ b) (a.length + p.offset)

/-- A token of a text, where another text stands in front of it. -/
def Token.behind (a b : List Char) (t : Token) : Token := { t with place := t.place.behind a b }

/-- The failure of a text, where another text stands in front of it. -/
def SyntaxFailure.behind (a b : List Char) (e : SyntaxFailure) : SyntaxFailure :=
  { e with place := e.place.behind a b }

/-- The place behind a part of a text, where another text stands in front. -/
theorem Place.advance_behind (a before after : List Char) :
    start.advance (a ++ before) = (start.advance before).behind a (before ++ after) := by
  have hoffset : a.length + (start.advance before).offset = (a ++ before).length := by
    rw [offset_advance, List.length_append]
    exact congrArg _ (Nat.zero_add _)
  rw [behind, hoffset, ← List.append_assoc, inText_append, advance_start]

namespace Lexer

/-- Segments behind another text make the same tokens there. -/
theorem tokens_behind (a before : List Char) (ls : List Segment) :
    tokens (Place.start.advance (a ++ before)) ls =
      (tokens (Place.start.advance before) ls).map (Token.behind a (before ++ join ls)) := by
  induction ls generalizing before with
  | nil => rfl
  | cons l ls ih =>
      have htoken : l.token (Place.start.advance (a ++ before)) =
          (l.token (Place.start.advance before)).behind a (before ++ join (l :: ls)) :=
        congrArg l.token (Place.advance_behind a before _)
      have ih := ih (before ++ l.text)
      rw [List.append_assoc, ← join_cons, ← List.append_assoc, Place.advance_append,
        Place.advance_append _ before] at ih
      rw [tokens, tokens, List.map_cons, ih, htoken]

/-- A text behind another one is read as if it stood alone. -/
theorem scan_behind (a b : List Char) :
    scan (Place.start.advance a) b =
      match scan .start b with
      | .ok us => .ok (us.map (Token.behind a b))
      | .error e => .error (e.behind a b) := by
  cases h : scan .start b with
  | ok us =>
      obtain ⟨ls, hrow, rfl, rfl⟩ := scan_eq_ok_iff.1 h
      have htokens := tokens_behind a [] ls
      rw [List.append_nil, Place.advance_nil, List.nil_append] at htokens
      rw [scan_join hrow, htokens]
  | error e =>
      obtain ⟨ls, bad, hrow, rfl, hlast, hfault, hplace⟩ := scan_eq_error_iff.1 h
      have hbehind : (Place.start.advance a).advance (join ls) =
          e.place.behind a (join ls ++ bad) := by
        rw [← Place.advance_append, Place.advance_behind a (join ls) bad, hplace]
      rw [scan_join_fault hrow hlast hfault, hbehind]
      rfl

end Lexer

/-- **Lexing is compositional, errors included.** A template behind one that has tokens has its own
tokens or its own failure, only further behind, and a text across the seam is one token; but two
braces must not meet there. In particular a template that fails is one that has tokens and then one
that fails at its start. -/
theorem tokenize_append :
    (∀ (a b : String) (ts : List Token), tokenize a = .ok ts → ¬BracesMeet a.toList b.toList →
      tokenize (a ++ b) =
        match tokenize b with
        | .ok us => .ok (joinTokens ts (us.map (Token.behind a.toList b.toList)))
        | .error e => .error (e.behind a.toList b.toList)) ∧
      ∀ (template : String) (e : SyntaxFailure), tokenize template = .error e →
        ∃ before after bad, template = before ++ after ∧ before.length = e.place.offset ∧
          (∃ ts, tokenize before = .ok ts) ∧ opening <+: after.toList ∧
          tokenize after = .error bad ∧ bad.place = .start ∧
          e = bad.behind before.toList after.toList := by
  constructor
  · -- the first template is segments in a row, and the lexer goes on behind them
    intro a b ts ha hseam
    obtain ⟨ls, hrow, hjoin, rfl⟩ := scan_eq_ok_iff.1 ha
    rw [← hjoin] at hseam ⊢
    rw [tokenize, String.toList_append, ← hjoin, scan_join_append ls hrow _ hseam, scan_behind,
      tokenize]
    cases scan .start b.toList <;> rfl
  · -- the segments in front of the bad marker are the template that has tokens
    intro template e h
    obtain ⟨ls, after, hrow, htext, hlast, hfault, hplace⟩ := scan_eq_error_iff.1 h
    refine ⟨.ofList (join ls), .ofList after, ⟨e.cause, .start⟩, ?_, ?_, ?_, ?_, ?_, rfl, ?_⟩
    · rw [← String.ofList_append, ← htext, String.ofList_toList]
    · rw [hplace, Place.offset_advance, String.length_ofList]
      exact (Nat.zero_add _).symm
    · exact ⟨_, scan_eq_ok_iff.2 ⟨ls, hrow, (String.toList_ofList).symm, rfl⟩⟩
    · rw [String.toList_ofList]
      exact hfault.opening_isPrefix
    · rw [tokenize, String.toList_ofList]
      exact scan_of_isFault hfault .start
    · have hbehind := Place.advance_behind (join ls) [] after
      rw [List.append_nil, ← hplace] at hbehind
      rw [String.toList_ofList, String.toList_ofList, SyntaxFailure.behind]
      exact congrArg (SyntaxFailure.mk e.cause) hbehind

/-- A text on both sides of the seam, and a failure behind it. -/
theorem tokenize_append_lines :
    tokenize ("\x7b\x7ba\x7d\x7db\n" ++ "c\x7b\x7bd\x7d\x7d") =
        .ok [⟨.variable, "a", ⟨0, 1, 1⟩⟩, ⟨.text, "b\nc", ⟨5, 1, 6⟩⟩, ⟨.variable, "d", ⟨8, 2, 2⟩⟩] ∧
      tokenize ("\x7b\x7ba\x7d\x7db\n" ++ "c\x7b\x7b/d\x7d\x7d") =
        .error ⟨.unknownCloser "/d", ⟨8, 2, 2⟩⟩ := by
  have hfront : tokenize "\x7b\x7ba\x7d\x7db\n" =
      .ok [⟨.variable, "a", ⟨0, 1, 1⟩⟩, ⟨.text, "b\n", ⟨5, 1, 6⟩⟩] := by
    decide +kernel
  have htokens : tokenize "c\x7b\x7bd\x7d\x7d" =
      .ok [⟨.text, "c", ⟨0, 1, 1⟩⟩, ⟨.variable, "d", ⟨1, 1, 2⟩⟩] := by
    decide +kernel
  have hfailure : tokenize "c\x7b\x7b/d\x7d\x7d" = .error ⟨.unknownCloser "/d", ⟨1, 1, 2⟩⟩ := by
    decide +kernel
  constructor
  · rw [tokenize_append.1 _ _ _ hfront (by simp [BracesMeet]), htokens]
    decide
  · rw [tokenize_append.1 _ _ _ hfront (by simp [BracesMeet]), hfailure]
    decide

end Curly
