import Curly.Proofs.Expr.Parser
import Curly.Term.Reader

/-!
What the reader of terms makes of a text: the forms of an access, each with what it is read as, and
that the expression of a term can stand as an argument as it is.
-/

namespace Curly

/-- A name stands for the innermost item, for itself, or for what the data have under it. -/
theorem Expr.redirected_name (this id : String) (scopes : List NameScope) :
    (Expr.name id).redirected this scopes =
      (if id = "this" then .name this
        else if scopes.any (·.names.contains id) then .name id else .resolve id, scopes) := by
  rw [Expr.redirected]
  by_cases hthis : id = "this"
  · rw [if_pos hthis, if_pos hthis]
    rfl
  · rw [if_neg hthis, if_neg hthis]
    show (if scopes.any (·.names.contains id) then (pure (.name id) : Redirect Expr)
      else pure (.resolve id)) scopes = _
    cases scopes.any (·.names.contains id) with
    | true => rfl
    | false => rfl

/-- Redirection keeps stars. -/
theorem Expr.isStarred_redirected (this : String) (e : Expr) (scopes : List NameScope) :
    (e.redirected this scopes).1.isStarred = e.isStarred := by
  cases e with
  | name id =>
      rw [redirected_name]
      dsimp only
      split
      · rfl
      · split
        · rfl
        · rfl
  | comprehension kind element value clauses =>
      cases clauses with
      | nil => rfl
      | cons c cs =>
          obtain ⟨asynchronous, target, iterable, tests⟩ := c
          rfl
  | _ => rfl

theorem Expr.isStarred_redirect (this : String) (loopNames : List String) (e : Expr) :
    (e.redirect this loopNames).isStarred = e.isStarred :=
  isStarred_redirected this e _

namespace Term

open Text Form

/-- What is read as a free-form expression is the one that some code parses to, redirected. -/
theorem exists_of_readComplex {scope : Scope} {text : List Char} {t : Term}
    (h : readComplex scope text = .ok t) : ∃ code e, Expr.ofText? code = some e ∧
      t = .complex (String.ofList text) (e.redirect (thisName scope) scope.boundNames) := by
  rw [readComplex] at h
  split at h
  · cases h
  · rename_i e he
    split at h
    · cases h
    · cases h
      exact ⟨_, e, he, rfl⟩

theorem isStarred_of_readComplex {scope : Scope} {text : List Char} {t : Term}
    (h : readComplex scope text = .ok t) : t.expr.isStarred = false := by
  obtain ⟨code, e, he, rfl⟩ := exists_of_readComplex h
  rw [expr, Expr.isStarred_redirect]
  exact Expr.isStarred_of_ofText? he

/-! ### Forms of accesses -/

/-- Whether a trimmed text is read as a free-form expression: for a sign of one, or because it goes
on behind `this` as no path does. -/
def IsFreeForm (s : List Char) : Prop :=
  isComplex s = true ∨ "this.".toList.isPrefixOf s = true ∧ isPath (s.drop 5) = false

theorem not_isFreeForm_nil : ¬IsFreeForm [] := by
  simp [IsFreeForm, isComplex]

theorem not_isFreeForm_this : ¬IsFreeForm "this".toList := by
  have hcomplex : isComplex "this".toList = false := by decide
  have hof : "this.".toList.isPrefixOf "this".toList = false := by decide
  rw [IsFreeForm, hcomplex, hof]
  simp

/-- The forms of an access, each with what it is read as. The text alone tells its form, which is
the same in every scope. -/
inductive AccessForm (text : List Char) : Prop
  | empty (form : strip text = []) (read : ∀ scope, readAccess scope text =
      .error ⟨.empty, some (String.ofList text)⟩)
  | this (form : strip text = "this".toList) (read : ∀ scope, readAccess scope text =
      .ok (.this (thisName scope)))
  | freeForm (form : IsFreeForm (strip text)) (read : ∀ scope, readAccess scope text =
      readComplex scope (strip text))
  | ofThis (path : List Char) (form : strip text = "this.".toList ++ path)
      (free : ¬IsFreeForm (strip text)) (isPath : isPath path = true) (read : ∀ scope,
        readAccess scope text = .ok (.path (thisName scope) (String.ofList path)))
  | ofData (free : ¬IsFreeForm (strip text)) (isPath : isPath (strip text) = true)
      (read : ∀ scope, readAccess scope text =
        .ok (.path contextName (String.ofList (strip text))))
  | other (free : ¬IsFreeForm (strip text)) (read : ∀ scope, readAccess scope text =
      .error ⟨.invalidVariable (String.ofList (strip text)), some (String.ofList (strip text))⟩)

/-- Every text has a form. -/
theorem accessForm (text : List Char) : AccessForm text := by
  by_cases hempty : strip text = []
  · exact .empty hempty fun scope => by rw [readAccess, hempty]; rfl
  by_cases hthis : strip text = "this".toList
  · exact .this hthis fun scope => by rw [readAccess, hthis]; rfl
  -- what is neither empty nor the item itself is told by the three tests that remain
  have hread (scope : Scope) : readAccess scope text =
      if isComplex (strip text) then readComplex scope (strip text)
      else if "this.".toList.isPrefixOf (strip text) then
        if isPath ((strip text).drop 5) then
          .ok (.path (thisName scope) (String.ofList ((strip text).drop 5)))
        else readComplex scope (strip text)
      else if isPath (strip text) then .ok (.path contextName (String.ofList (strip text)))
      else .error ⟨.invalidVariable (String.ofList (strip text)),
        some (String.ofList (strip text))⟩ := by
    rw [readAccess]
    dsimp only
    rw [if_neg (by simpa using hempty), if_neg hthis]
  by_cases hfree : isComplex (strip text)
  · exact .freeForm (.inl hfree) fun scope => by rw [hread, if_pos hfree]
  by_cases hof : "this.".toList.isPrefixOf (strip text)
  · obtain ⟨path, hpath⟩ := List.isPrefixOf_iff_prefix.1 hof
    -- what goes on behind `this` is a path, or makes the text free-form
    have hdrop : (strip text).drop 5 = path := by rw [← hpath]; rfl
    rw [hdrop] at hread
    by_cases hrest : isPath path
    · refine .ofThis path hpath.symm ?_ hrest fun scope => ?_
      · rintro (h | ⟨-, h⟩)
        · exact hfree h
        · exact Bool.eq_false_iff.1 (hdrop ▸ h) hrest
      · rw [hread, if_neg hfree, if_pos hof, if_pos hrest]
    · refine .freeForm (.inr ⟨hof, hdrop ▸ Bool.eq_false_iff.2 hrest⟩) fun scope => ?_
      rw [hread, if_neg hfree, if_pos hof, if_neg hrest]
  have hnot : ¬IsFreeForm (strip text) := by
    rintro (h | ⟨h, -⟩)
    · exact hfree h
    · exact hof h
  by_cases hpath : isPath (strip text)
  · exact .ofData hnot hpath fun scope => by
      rw [hread, if_neg hfree, if_neg hof, if_pos hpath]
  · exact .other hnot fun scope => by
      rw [hread, if_neg hfree, if_neg hof, if_neg hpath]

/-- The expression of a variable, or of an operand, is not starred. -/
theorem isStarred_of_readAccess {scope : Scope} {text : List Char} {t : Term}
    (h : readAccess scope text = .ok t) : t.expr.isStarred = false := by
  cases accessForm text with
  | empty _ hread | other _ hread =>
      rw [hread] at h
      cases h
  | this _ hread | ofThis _ _ _ _ hread | ofData _ _ hread =>
      rw [hread] at h
      cases h
      rfl
  | freeForm _ hread =>
      rw [hread] at h
      exact isStarred_of_readComplex h

end Term

end Curly
