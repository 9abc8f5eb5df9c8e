import Curly.Value.Text
import Mathlib.Data.List.Infix

/-!
Escaped texts: what escaping makes of a text. The characters are replaced one after the other, over
the whole text each time; because the ampersand is the first of them, no character is replaced that
another replacement has written, and the effect is that of replacing all at once. So a text that was
escaped holds none of the characters that mean something, and no ampersand but those of entities.
-/

namespace Curly

/-- The characters that open, close or delimit something in HTML. -/
def htmlSpecials : List Char := ['<', '>', '"', '\'']

/-- A text that means nothing in HTML beyond itself: it holds no special character, and each of its
ampersands starts an entity. -/
structure IsEscaped (s : List Char) : Prop where
  plain : ∀ c ∈ s, c ∉ htmlSpecials
  entities : ∀ t, '&' :: t <:+ s → ∃ e ∈ htmlEntities, e.2.toList <+: '&' :: t

namespace IsEscaped

theorem nil : IsEscaped [] :=
  ⟨fun _ hc => absurd hc List.not_mem_nil, fun _ ht => absurd (List.suffix_nil.1 ht) (by simp)⟩

theorem append {s t : List Char} (hs : IsEscaped s) (ht : IsEscaped t) : IsEscaped (s ++ t) := by
  refine ⟨fun c hc => ?_, fun u hu => ?_⟩
  · obtain hc | hc := List.mem_append.1 hc
    · exact hs.plain c hc
    · exact ht.plain c hc
  · -- the ampersand stands in one of the two parts
    obtain ⟨before, hbefore⟩ := hu
    obtain ⟨mid, hmid, hmid'⟩ | ⟨mid, hmid, hmid'⟩ := List.append_eq_append_iff.1 hbefore
    · cases mid with
      | nil => exact ht.entities u ⟨[], hmid'⟩
      | cons c mid =>
          obtain ⟨rfl, rfl⟩ := List.cons_eq_cons.1 hmid'
          obtain ⟨e, he, hpre⟩ := hs.entities mid ⟨before, hmid.symm⟩
          exact ⟨e, he, hpre.trans (List.prefix_append _ t)⟩
    · exact ht.entities u ⟨mid, hmid'.symm⟩

/-- A character that means nothing is escaped as it is. -/
theorem singleton {c : Char} (hc : c ∉ htmlSpecials) (hamp : c ≠ '&') : IsEscaped [c] := by
  refine ⟨fun d hd => ?_, fun t ht => ?_⟩
  · rw [List.mem_singleton] at hd
    exact hd ▸ hc
  · have hmem : '&' ∈ [c] := ht.subset List.mem_cons_self
    rw [List.mem_singleton] at hmem
    exact absurd hmem.symm hamp

/-- Entities are escaped. -/
theorem of_entity {e : Char × String} (he : e ∈ htmlEntities) : IsEscaped e.2.toList := by
  have hplain : htmlEntities.all (fun e => e.2.toList.all fun c => !htmlSpecials.contains c) =
      true := by decide
  have hsuffix : htmlEntities.all (fun e => e.2.toList.tails.all fun u => u.head? != some '&' ||
      htmlEntities.any fun e => e.2.toList.isPrefixOf u) = true := by decide
  refine ⟨fun c hc => ?_, fun t ht => ?_⟩
  · have hc := List.all_eq_true.1 (List.all_eq_true.1 hplain e he) c hc
    simpa using hc
  · have ht := List.all_eq_true.1 (List.all_eq_true.1 hsuffix e he) _ ((List.mem_tails _ _).2 ht)
    have hany : htmlEntities.any (fun e => e.2.toList.isPrefixOf ('&' :: t)) = true := by
      simpa using ht
    obtain ⟨e', he', hpre⟩ := List.any_eq_true.1 hany
    exact ⟨e', he', List.isPrefixOf_iff_prefix.1 hpre⟩

end IsEscaped

/-- What stands for one character. -/
def htmlOf (c : Char) : List Char := ((htmlEntities.lookup c).map String.toList).getD [c]

theorem lookup_htmlEntities {c : Char} (h : htmlEntities.lookup c = none) :
    c ≠ '&' ∧ c ∉ htmlSpecials := by
  constructor
  · rintro rfl
    cases h
  · intro hc
    simp only [htmlSpecials, List.mem_cons, List.not_mem_nil, or_false] at hc
    obtain rfl | rfl | rfl | rfl := hc
    all_goals cases h

/-- What stands for a character is escaped. -/
theorem isEscaped_htmlOf (c : Char) : IsEscaped (htmlOf c) := by
  rw [htmlOf]
  cases h : htmlEntities.lookup c with
  | none =>
      obtain ⟨hamp, hspecial⟩ := lookup_htmlEntities h
      exact .singleton hspecial hamp
  | some entity =>
      obtain ⟨before, after, hmem, -⟩ := List.lookup_eq_some_iff.1 h
      have he : (c, entity) ∈ htmlEntities := by
        rw [hmem]
        exact List.mem_append_right before List.mem_cons_self
      exact .of_entity he

/-- A replacement is done in every part of a text. -/
theorem replaceChar_flatMap (c : Char) (entity : String) (f : Char → List Char) (s : List Char) :
    replaceChar c entity (s.flatMap f) = s.flatMap fun d => replaceChar c entity (f d) := by
  rw [replaceChar, List.flatMap_assoc]
  rfl

theorem foldl_replaceChar_flatMap (es : List (Char × String)) (f : Char → List Char)
    (s : List Char) :
    es.foldl (fun s e => replaceChar e.1 e.2 s) (s.flatMap f) =
      s.flatMap fun c => es.foldl (fun s e => replaceChar e.1 e.2 s) (f c) := by
  induction es generalizing f with
  | nil => rfl
  | cons e es ih =>
      rw [List.foldl_cons, replaceChar_flatMap, ih]
      rfl

/-- A character on its own is replaced by what stands for it. -/
theorem escapeHtml_singleton (c : Char) : escapeHtml [c] = htmlOf c := by
  cases h : htmlEntities.lookup c with
  | none =>
      obtain ⟨hamp, hspecial⟩ := lookup_htmlEntities h
      simp only [htmlSpecials, List.mem_cons, List.not_mem_nil, or_false, not_or] at hspecial
      obtain ⟨hlt, hgt, hquote, hmark⟩ := hspecial
      -- None of the replacements finds anything to replace.
      have hkeep {d : Char} (entity : String) (hne : c ≠ d) : replaceChar d entity [c] = [c] := by
        simp [replaceChar, hne]
      rw [htmlOf, h, escapeHtml, htmlEntities]
      simp only [List.foldl_cons, List.foldl_nil]
      rw [hkeep _ hamp, hkeep _ hlt, hkeep _ hgt, hkeep _ hquote, hkeep _ hmark]
      rfl
  | some entity =>
      obtain ⟨before, after, hmem, -⟩ := List.lookup_eq_some_iff.1 h
      have he : (c, entity) ∈ htmlEntities := by
        rw [hmem]
        exact List.mem_append_right before List.mem_cons_self
      -- The few characters that are replaced are looked through.
      have hall : htmlEntities.all (fun e => escapeHtml [e.1] == htmlOf e.1) = true := by decide
      simpa using List.all_eq_true.1 hall _ he

/-- Escaping replaces every character by itself. -/
theorem escapeHtml_eq_flatMap (s : List Char) : escapeHtml s = s.flatMap htmlOf := by
  have hs : s = s.flatMap fun c => [c] := by simp
  conv_lhs => rw [hs, escapeHtml, foldl_replaceChar_flatMap]
  exact congrArg s.flatMap (funext escapeHtml_singleton)

/-- What was escaped means nothing. -/
theorem isEscaped_escapeHtml (s : List Char) : IsEscaped (escapeHtml s) := by
  rw [escapeHtml_eq_flatMap]
  induction s with
  | nil => exact .nil
  | cons c s ih =>
      rw [List.flatMap_cons]
      exact .append (isEscaped_htmlOf c) ih

end Curly
