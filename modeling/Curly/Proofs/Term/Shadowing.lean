import Curly.Proofs.Expr.Shadowing
import Curly.Proofs.Term.Reader
import Curly.Proofs.Text.Space

/-!
Accesses inside of loops and outside. A text without `this` and `@index` is read in the same way in
every scope, as a path or as a free-form expression, and with the same errors. Only a free-form
expression can tell where it stands: if it reads a name from the data that a loop around it binds.
-/

namespace Curly

/-! ## Shorthands that do not occur -/

namespace Shorthand

open Text Form

/-- The rest of a string literal, and what follows it, are what was there. -/
theorem append_of_quoted? {quote : Char} {s a rest : List Char}
    (h : quoted? quote s = some (a, rest)) : a ++ rest = s := by
  fun_induction quoted? quote s generalizing a with
  | case1 => cases h
  | case2 => cases h
  | case3 c s hc ih =>
      obtain ⟨⟨b, r⟩, hb, heq⟩ := Option.map_eq_some_iff.1 h
      cases heq
      exact congrArg (fun t => '\\' :: c :: t) (ih hb)
  | case4 => cases h; rfl
  | case5 => cases h
  | case6 c s _ hc hslash ih =>
      obtain ⟨⟨b, r⟩, hb, heq⟩ := Option.map_eq_some_iff.1 h
      cases heq
      exact congrArg (c :: ·) (ih hb)

/-- A string literal, which is not empty, and what follows it are what was there. -/
theorem append_of_stringLiteral? {s a rest : List Char} (h : stringLiteral? s = some (a, rest)) :
    a ≠ [] ∧ a ++ rest = s := by
  unfold stringLiteral? at h
  split at h
  · obtain ⟨⟨b, r⟩, hb, heq⟩ := Option.map_eq_some_iff.1 h
    cases heq
    exact ⟨List.cons_ne_nil _ _, congrArg ('\'' :: ·) (append_of_quoted? hb)⟩
  · obtain ⟨⟨b, r⟩, hb, heq⟩ := Option.map_eq_some_iff.1 h
    cases heq
    exact ⟨List.cons_ne_nil _ _, congrArg ('"' :: ·) (append_of_quoted? hb)⟩
  · cases h

/-- Where nothing is found nothing is replaced. -/
theorem substitute_eq_self {hit? : List Char → Option (List Char × List Char)} {s : List Char}
    (h : ∀ t, t <:+ s → hit? t = none) : substitute hit? s = s := by
  fun_induction substitute hit? s with
  | case1 => rfl
  | case2 c cs replacement rest hfound hle ih =>
      -- what is found is a string, which stays
      have hstring : stringLiteral? (c :: cs) = some (replacement, rest) := by
        simpa [h (c :: cs) List.suffix_rfl] using hfound
      obtain ⟨-, heq⟩ := append_of_stringLiteral? hstring
      rw [ih fun t ht => h t (ht.trans ⟨replacement, heq⟩), heq]
  | case3 c cs replacement rest hfound hle =>
      have hstring : stringLiteral? (c :: cs) = some (replacement, rest) := by
        simpa [h (c :: cs) List.suffix_rfl] using hfound
      obtain ⟨hne, heq⟩ := append_of_stringLiteral? hstring
      have hlength := congrArg List.length heq
      have hpos := List.length_pos_iff.2 hne
      rw [List.length_append, List.length_cons] at hlength
      omega
  | case4 c cs hnone ih =>
      rw [ih fun t ht => h t (ht.trans (List.suffix_cons c cs))]

/-- Where there is no `@index` nothing stands for the index of a loop. -/
theorem replaceIndex_eq_self {s : List Char} (h : ¬"@index".toList <:+: s)
    (replacement : List Char) : replaceIndex replacement s = s := by
  refine substitute_eq_self fun t ht => if_neg fun hword => h ?_
  rw [startsWithWord, Bool.and_eq_true, List.isPrefixOf_iff_prefix] at hword
  exact hword.1.isInfix.trans ht.isInfix

end Shorthand

/-! ## Reading in two scopes -/

namespace Term

open Text Form Shorthand

/-- The expression that a text without `@index` is read as, if it is a free-form one that can be
read. -/
def freeForm? (text : List Char) : Option Expr :=
  let s := strip text
  let code := strip (replaceArrows s)
  if isComplex s && !hasLongInteger code then Expr.ofText? code else none

/-- A text without `this` and `@index` is read alike in two scopes if it is read as the same
expression, if as any. -/
theorem readAccess_eq_iff {text : List Char} (hthis : ¬"this".toList <:+: text)
    (hindex : ¬"@index".toList <:+: text) (scope other : Scope) :
    readAccess scope text = readAccess other text ↔ ∀ e, freeForm? text = some e →
      e.redirect (thisName scope) scope.boundNames =
        e.redirect (thisName other) other.boundNames := by
  have hs := strip_isInfix text
  have hword : strip text ≠ "this".toList := fun heq => hthis (heq ▸ hs)
  have hof : "this.".toList.isPrefixOf (strip text) ≠ true := by
    intro hprefix
    have hdot := (List.isPrefixOf_iff_prefix.1 hprefix).isInfix
    exact hthis ((List.prefix_append "this".toList ['.']).isInfix.trans (hdot.trans hs))
  have hindex' : ¬"@index".toList <:+: strip text := fun h => hindex (h.trans hs)
  have hnone (h : ¬IsFreeForm (strip text)) : freeForm? text = none := by
    have hcomplex : isComplex (strip text) = false :=
      Bool.eq_false_iff.2 fun hfree => h (.inl hfree)
    simp [freeForm?, hcomplex]
  cases accessForm text with
  | this hform => exact absurd hform hword
  | ofThis path hform =>
      exact absurd (List.isPrefixOf_iff_prefix.2 (hform ▸ List.prefix_append _ path)) hof
  | empty hform hread =>
      rw [hread, hread, hnone (hform ▸ not_isFreeForm_nil)]
      simp
  | ofData hfree _ hread | other hfree hread =>
      rw [hread, hread, hnone hfree]
      simp
  | freeForm hform hread =>
      have hfree := hform.resolve_right fun h => hof h.1
      rw [hread, hread, readComplex, readComplex, replaceIndex_eq_self hindex',
        replaceIndex_eq_self hindex', freeForm?, hfree]
      -- the code is the same in both scopes, and so are the reasons for which it is refused
      generalize strip (replaceArrows (strip text)) = code
      cases he : Expr.ofText? code with
      | none => simp
      | some e =>
          cases hlong : hasLongInteger code with
          | true => simp
          | false => simp

end Term

end Curly
