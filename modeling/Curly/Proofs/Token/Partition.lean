import Curly.Proofs.Token.Segment
import Curly.Proofs.Token.Place
import Mathlib.Data.List.Forall2

/-!
Lexing cuts a template into pieces and loses none of it: every token starts where the one before it
ends, the piece that begins there is the segment of the token, and the place of the token is the
place of that offset in the template.
-/

namespace Curly

open Lexer Segment

/-- The pieces of a text that begin at some offsets, each up to the next one. -/
def piecesAt (s : List Char) : (offsets : List Nat) → List (List Char)
  | [] => []
  | [n] => [s.drop n]
  | n :: m :: offsets => (s.drop n).take (m - n) :: piecesAt s (m :: offsets)

/-- Tokens that are the pieces of a text. -/
structure IsPartition (s : List Char) (ts : List Token) : Prop where
  /-- Only the empty text has no tokens. -/
  nil_iff : ts = [] ↔ s = []
  /-- The first token starts where the text starts. -/
  first : ∀ t ∈ ts.head?, t.place.offset = 0
  /-- Every token starts behind the ones before it. -/
  increasing : ts.Pairwise fun t u => t.place.offset < u.place.offset
  /-- The pieces between the starts of tokens are the whole text. -/
  flatten : (piecesAt s (ts.map (·.place.offset))).flatten = s
  /-- Every piece makes its token. -/
  segments : List.Forall₂ (fun piece t => IsSegment piece t.kind t.value.toList)
    (piecesAt s (ts.map (·.place.offset))) ts
  /-- Line and column are those of the offset in the text. -/
  places : ∀ t ∈ ts, t.place = .inText s t.place.offset
  /-- Every token stands on a later line or column than the ones before it. -/
  ordered : ts.Pairwise fun t u => t.place.Before u.place

namespace Lexer

/-- A token of segments stands at their start or behind the first of them. -/
theorem place_of_mem_tokens {ls : List Segment} {p : Place} {t : Token} (h : t ∈ tokens p ls) :
    ∃ before after, join ls = before ++ after ∧ t.place = p.advance before := by
  induction ls generalizing p with
  | nil => cases h
  | cons l ls ih =>
      obtain rfl | h := List.mem_cons.1 h
      · exact ⟨[], join (l :: ls), rfl, rfl⟩
      · obtain ⟨before, after, hjoin, hplace⟩ := ih h
        refine ⟨l.text ++ before, after, ?_, ?_⟩
        · rw [join_cons, hjoin, List.append_assoc]
        · rw [hplace, Place.advance_append]

/-- Tokens of segments stand one behind the other. -/
theorem pairwise_tokens (ls : List Segment) (p : Place) :
    (tokens p ls).Pairwise fun t u => ∃ s, s ≠ [] ∧ u.place = t.place.advance s := by
  induction ls generalizing p with
  | nil => exact .nil
  | cons l ls ih =>
      refine .cons (fun u hu => ?_) (ih _)
      obtain ⟨before, after, -, hplace⟩ := place_of_mem_tokens hu
      refine ⟨l.text ++ before, ?_, ?_⟩
      · simp [l.text_ne_nil]
      · rw [hplace, ← Place.advance_append]
        rfl

/-- The pieces between the starts of tokens are the texts of their segments. -/
theorem piecesAt_tokens (before : List Char) (ls : List Segment) :
    piecesAt (before ++ join ls) ((tokens (Place.start.advance before) ls).map (·.place.offset)) =
      ls.map text := by
  induction ls generalizing before with
  | nil => rfl
  | cons l ls ih =>
      have hoffset (s : List Char) : (Place.start.advance s).offset = s.length := by
        rw [Place.offset_advance]
        exact Nat.zero_add _
      have ih := ih (before ++ l.text)
      rw [List.append_assoc] at ih
      cases ls with
      | nil =>
          show [(before ++ (l.text ++ [])).drop (Place.start.advance before).offset] = [l.text]
          rw [hoffset, List.drop_left, List.append_nil]
      | cons m ls =>
          have hlength : (Place.start.advance (before ++ l.text)).offset -
              (Place.start.advance before).offset = l.text.length := by
            rw [hoffset, hoffset, List.length_append]
            omega
          -- the first piece ends where the second segment begins
          rw [tokens, List.map_cons, ← Place.advance_append, tokens, List.map_cons, piecesAt,
            List.map_cons]
          refine List.cons_eq_cons.2 ⟨?_, ih⟩
          show ((before ++ join (l :: m :: ls)).drop (Place.start.advance before).offset).take
            ((Place.start.advance (before ++ l.text)).offset -
              (Place.start.advance before).offset) = l.text
          rw [hlength, hoffset, List.drop_left, join_cons, List.take_left]

theorem forall₂_tokens (p : Place) (ls : List Segment) :
    List.Forall₂ (fun piece (t : Token) => IsSegment piece t.kind t.value.toList)
      (ls.map text) (tokens p ls) := by
  induction ls generalizing p with
  | nil => exact .nil
  | cons l ls ih =>
      refine .cons ?_ (ih _)
      show IsSegment l.text l.kind (String.ofList l.value).toList
      rw [String.toList_ofList]
      exact l.isSegment

end Lexer

/-- **Lexing partitions the template without loss.** -/
theorem tokenize_isPartition {template : String} {ts : List Token}
    (h : tokenize template = .ok ts) : IsPartition template.toList ts := by
  obtain ⟨ls, -, hjoin, rfl⟩ := scan_eq_ok_iff.1 h
  rw [← hjoin]
  -- a run of the lexer is a row of segments, which the tokens are made from at their places
  have hpieces := piecesAt_tokens [] ls
  rw [List.nil_append, Place.advance_nil] at hpieces
  exact {
    nil_iff := by
      cases ls with
      | nil => simp [tokens, join_nil]
      | cons l ls => simp [tokens, join_cons, l.text_ne_nil]
    first := by
      cases ls with
      | nil =>
          intro t ht
          cases ht
      | cons l ls =>
          intro t ht
          cases ht
          rfl
    increasing := (pairwise_tokens ls .start).imp fun {t u} hu => by
      obtain ⟨s, hs, hplace⟩ := hu
      have := List.length_pos_iff.2 hs
      rw [hplace, Place.offset_advance]
      omega
    flatten := by rw [hpieces, join, List.flatMap]
    segments := hpieces ▸ forall₂_tokens .start ls
    places := fun t ht => by
      obtain ⟨before, after, hsplit, hplace⟩ := place_of_mem_tokens ht
      rw [hsplit, hplace, Place.advance_start]
      exact (Place.inText_append before after).symm
    ordered := (pairwise_tokens ls .start).imp fun {t u} hu => by
      obtain ⟨s, hs, hplace⟩ := hu
      exact hplace ▸ t.place.before_advance hs }

/-- A marker with a line end in it, and braces that are text. -/
theorem tokenize_isPartition_lines :
    tokenize "\x7ba\n\x7b\x7b#if b\n\x7d\x7d\x7d\x7b\x7b/if\x7d\x7d" =
        .ok [⟨.text, "\x7ba\n", ⟨0, 1, 1⟩⟩, ⟨.opener .cond, "b", ⟨3, 2, 1⟩⟩,
          ⟨.text, "\x7d", ⟨13, 3, 3⟩⟩, ⟨.closer .cond, "", ⟨14, 3, 4⟩⟩] ∧
      IsPartition "\x7ba\n\x7b\x7b#if b\n\x7d\x7d\x7d\x7b\x7b/if\x7d\x7d".toList
        [⟨.text, "\x7ba\n", ⟨0, 1, 1⟩⟩, ⟨.opener .cond, "b", ⟨3, 2, 1⟩⟩,
          ⟨.text, "\x7d", ⟨13, 3, 3⟩⟩, ⟨.closer .cond, "", ⟨14, 3, 4⟩⟩] := by
  have hread : tokenize "\x7ba\n\x7b\x7b#if b\n\x7d\x7d\x7d\x7b\x7b/if\x7d\x7d" =
      .ok [⟨.text, "\x7ba\n", ⟨0, 1, 1⟩⟩, ⟨.opener .cond, "b", ⟨3, 2, 1⟩⟩,
        ⟨.text, "\x7d", ⟨13, 3, 3⟩⟩, ⟨.closer .cond, "", ⟨14, 3, 4⟩⟩] := by
    decide +kernel
  exact ⟨hread, tokenize_isPartition hread⟩

end Curly
