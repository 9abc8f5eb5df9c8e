import Curly.Proofs.Value.Text

/-!
Entities: escaping is an encoding of texts, one character at a time. Reading the entities of an
escaped text from left to right gives the text back, so no two texts are escaped alike.
-/

namespace Curly

/-- The text that a text with entities stands for. They are read from left to right, and what an
entity stands for is not read again. -/
def unescapeHtml : List Char → List Char
  | '&' :: 'a' :: 'm' :: 'p' :: ';' :: s => '&' :: unescapeHtml s
  | '&' :: 'l' :: 't' :: ';' :: s => '<' :: unescapeHtml s
  | '&' :: 'g' :: 't' :: ';' :: s => '>' :: unescapeHtml s
  | '&' :: 'q' :: 'u' :: 'o' :: 't' :: ';' :: s => '"' :: unescapeHtml s
  | '&' :: '#' :: '3' :: '9' :: ';' :: s => '\'' :: unescapeHtml s
  | c :: s => c :: unescapeHtml s
  | [] => []

/-- A character that begins no entity is read as it is. -/
theorem unescapeHtml_cons {c : Char} (hc : c ≠ '&') (s : List Char) :
    unescapeHtml (c :: s) = c :: unescapeHtml s := by
  rw [unescapeHtml.eq_def]
  split <;> simp_all

theorem htmlOf_eq (c : Char) :
    htmlOf c = match c with
      | '&' => "&amp;".toList
      | '<' => "&lt;".toList
      | '>' => "&gt;".toList
      | '"' => "&quot;".toList
      | '\'' => "&#39;".toList
      | c => [c] := by
  split
  case h_6 hamp hlt hgt hquote hmark =>
      have hnone : htmlEntities.lookup c = none := by
        simp only [List.lookup_eq_none_iff, htmlEntities, List.forall_mem_cons, bne_iff_ne]
        exact ⟨hamp, hlt, hgt, hquote, hmark, fun e he => absurd he List.not_mem_nil⟩
      rw [htmlOf, hnone]
      rfl
  all_goals rfl

/-- What stands for a character is read as the character, whatever follows. -/
theorem unescapeHtml_htmlOf (c : Char) (s : List Char) :
    unescapeHtml (htmlOf c ++ s) = c :: unescapeHtml s := by
  rw [htmlOf_eq]
  split
  case h_6 hamp _ _ _ _ => exact unescapeHtml_cons hamp s
  all_goals rfl

/-- Reading the entities of an escaped text gives the text back. -/
theorem unescapeHtml_escapeHtml (s : List Char) : unescapeHtml (escapeHtml s) = s := by
  rw [escapeHtml_eq_flatMap]
  induction s with
  | nil => rfl
  | cons c s ih => rw [List.flatMap_cons, unescapeHtml_htmlOf, ih]

theorem escapeHtml_append (s t : List Char) :
    escapeHtml (s ++ t) = escapeHtml s ++ escapeHtml t := by
  rw [escapeHtml_eq_flatMap, escapeHtml_eq_flatMap, escapeHtml_eq_flatMap, List.flatMap_append]

theorem escaped_str (s : String) :
    (Value.str s).escaped = .ok (String.ofList (escapeHtml s.toList)) := rfl

/-- **Escaping is an encoding, one character at a time.** A text is escaped without an error: the
five replacements, each done in the whole text, write for every character what stands for it. So
texts put together are escaped part by part, the text is read back from its entities, no two texts
are escaped alike, and in what was escaped no special character is left and no ampersand but those
that start an entity. -/
theorem escapeHtml_isEncoding :
    (∀ s : String, (Value.str s).escaped = .ok (String.ofList (escapeHtml s.toList))) ∧
    (∀ s, escapeHtml s = s.flatMap fun c => match c with
      | '&' => "&amp;".toList
      | '<' => "&lt;".toList
      | '>' => "&gt;".toList
      | '"' => "&quot;".toList
      | '\'' => "&#39;".toList
      | c => [c]) ∧
    (∀ s t, escapeHtml (s ++ t) = escapeHtml s ++ escapeHtml t) ∧
    (∀ s, unescapeHtml (escapeHtml s) = s) ∧
    Function.Injective escapeHtml ∧
    ∀ s, (∀ c ∈ escapeHtml s, c ∉ ['<', '>', '"', '\'']) ∧
      ∀ t, '&' :: t <:+ escapeHtml s →
        ∃ entity ∈ ["&amp;", "&lt;", "&gt;", "&quot;", "&#39;"], entity.toList <+: '&' :: t := by
  -- the ampersand is written first, so reading the entities undoes all five at once
  have hinverse : Function.LeftInverse unescapeHtml escapeHtml := unescapeHtml_escapeHtml
  refine ⟨escaped_str, fun s => ?_, escapeHtml_append, hinverse, hinverse.injective, fun s => ?_⟩
  · rw [escapeHtml_eq_flatMap]
    exact congrArg s.flatMap (funext htmlOf_eq)
  · obtain ⟨hplain, hentities⟩ := isEscaped_escapeHtml s
    refine ⟨hplain, fun t ht => ?_⟩
    obtain ⟨e, he, hprefix⟩ := hentities t ht
    exact ⟨e.2, List.mem_map_of_mem he, hprefix⟩

/-- The ampersand of an entity. -/
theorem escapeHtml_isEncoding_ampersand :
    '&' :: "amp;b".toList <:+ escapeHtml "a&b".toList ∧
      ∃ entity ∈ ["&amp;", "&lt;", "&gt;", "&quot;", "&#39;"],
        entity.toList <+: '&' :: "amp;b".toList := by
  have hsuffix : '&' :: "amp;b".toList <:+ escapeHtml "a&b".toList := ⟨['a'], by decide⟩
  exact ⟨hsuffix, (escapeHtml_isEncoding.2.2.2.2.2 "a&b".toList).2 _ hsuffix⟩

/-- A text that looks like an entity is read back as it was. -/
example : escapeHtml "a&lt;<".toList = "a&amp;lt;&lt;".toList ∧
    unescapeHtml "a&amp;lt;&lt;".toList = "a&lt;<".toList := by decide

end Curly
