import Curly.Proofs.Expr.Outcome

/-!
Where names lead after redirection: that a name which stays is bound where it stands, and that a
name which redirection puts in is not.

Neither holds of every expression. Redirection takes more names for bound than are, and it never
renames what an author binds, so that both results say which expressions they hold of.
-/

namespace Curly

/-! ## Names that stay -/

/-- A name that stays is bound where it stands. All others read the data, or are what `this` stands
for. -/
def Outcome.closed (this : String) : Outcome where
  read P id f :=
    if id = "this" then f = .name this else f = .name id ∧ id ∈ P.bound ∨ f = .resolve id
  member _ := True
  kept P id := id ∈ P.bound

/-- What is taken for bound is bound, and so is what a target reads. -/
def Rule.confined : Rule where
  read P id := id ≠ "this" → id ∈ P.taken → id ∈ P.bound
  member _ := True
  kept P id := id ∈ P.bound

theorem Rule.confined_decides (this : String) :
    Rule.confined.Decides Iff this (.closed this) where
  this P := by simp [confined, Outcome.closed]
  taken P id hthis htaken := by
    simp [confined, Outcome.closed, hthis, htaken, Expr.resolve, Expr.apply]
  assigned P id hthis htaken hothers := by
    simp [confined, Outcome.closed, hthis, htaken, Site.bound, hothers]
  free P id hthis htaken := by simp [confined, Outcome.closed, hthis, htaken]
  member P := Iff.rfl
  kept := rfl

/-- A parameter of a lambda in a default is taken for one of the lambda around it. -/
example : ¬ (Expr.lambda [.mk .positional "a" (some (.lambda [.mk .positional "y" none]
    (.name "y")))] (.name "y")).Everywhere .confined ⟨[], [], []⟩ := by
  simp [Expr.Everywhere, EverywhereInParams, EverywhereInOption, Rule.confined, Site.inLambda,
    Site.bound, Expr.assigned, paramNamesOfParams, paramNamesOfOption, Expr.paramNames, Param.name]

/-! ## Names that redirection puts in -/

/-- No parameter and no target around it binds a name that redirection puts in. -/
def Outcome.uncaptured (this : String) : Outcome where
  read P id f :=
    if id = "this" then f = .name this ∧ this ∉ P.binders
    else f = .name id ∨
      f = .resolve id ∧ Helper.resolve.name ∉ P.binders ∧ contextName ∉ P.binders
  member P := Helper.member.name ∉ P.binders
  kept _ _ := True

/-- Where `this`, a name that is not taken for bound or an attribute is read, no parameter and no
target binds what redirection puts in. Some names are exempt. -/
def Rule.clear (this : String) (exempt : Site → List String) : Rule where
  read P id :=
    if id = "this" then this ∉ P.binders
    else id ∉ P.taken → id ∉ exempt P →
      Helper.resolve.name ∉ P.binders ∧ contextName ∉ P.binders
  member P := Helper.member.name ∉ P.binders
  kept _ _ := True

/-- Where a name or an attribute is read, parameters and targets bind only names of a list. -/
def Rule.within (allowed : List String) : Rule where
  read P _ := P.binders ⊆ allowed
  member P := P.binders ⊆ allowed
  kept _ _ := True

/-- What redirection may put in, next to what `this` stands for. -/
def Expr.inserted (this : String) : List String :=
  [this, contextName, Helper.resolve.name, Helper.member.name]

theorem Rule.clear_decides (this : String) :
    (Rule.clear this fun _ => []).Decides (fun p q => q → p) this (.uncaptured this) where
  this P := by simp [clear, Outcome.uncaptured]
  taken P id hthis htaken := by simp [clear, Outcome.uncaptured, hthis]
  assigned P id hthis htaken hothers := by simp [clear, Outcome.uncaptured, hthis]
  free P id hthis htaken hread := by
    simp only [clear, if_neg hthis] at hread
    have hclear := hread htaken List.not_mem_nil
    simp [Outcome.uncaptured, hthis, hclear]
  member P := id
  kept := rfl

/-- An assigned name may be read before or behind its assignment, and is redirected only before. -/
theorem Rule.clear_decided (this : String) :
    (Rule.clear this Site.others).Decides (fun p q => p → q) this (.uncaptured this) where
  this P := by simp [clear, Outcome.uncaptured]
  taken P id hthis htaken := by simp [clear, hthis, htaken]
  assigned P id hthis htaken hothers := by simp [clear, hthis, hothers]
  free P id hthis htaken hread := by
    have hclear : Helper.resolve.name ∉ P.binders ∧ contextName ∉ P.binders := by
      simpa [Outcome.uncaptured, hthis, Expr.resolve, Expr.apply] using hread
    simp [clear, hthis, hclear]
  member P := id
  kept := rfl

theorem Rule.within_decides {this : String} {allowed : List String}
    (h : ∀ x ∈ Expr.inserted this, x ∉ allowed) :
    (Rule.within allowed).Decides (fun p q => q → p) this (.uncaptured this) := by
  -- What is put in is not allowed as a binder, so nothing binds it.
  have hfree (x : String) (hx : x ∈ Expr.inserted this) (P : Site) (hP : P.binders ⊆ allowed) :
      x ∉ P.binders := fun hmem => h x hx (hP hmem)
  exact {
    this := fun P hP => by
      simpa [Outcome.uncaptured] using hfree this (by simp [Expr.inserted]) P hP
    taken := fun P id hthis htaken hP => by simp [Outcome.uncaptured, hthis]
    assigned := fun P id hthis htaken hothers hP => by simp [Outcome.uncaptured, hthis]
    free := fun P id hthis htaken hP => by
      have hresolve := hfree Helper.resolve.name (by simp [Expr.inserted]) P hP
      have hcontext := hfree contextName (by simp [Expr.inserted]) P hP
      simp [Outcome.uncaptured, hthis, hresolve, hcontext]
    member := fun P hP => hfree Helper.member.name (by simp [Expr.inserted]) P hP
    kept := rfl }

/-- An expression that reads behind a parameter whatever redirection may replace: `this`, a name and
an attribute. -/
def Expr.behind (param : String) : Expr :=
  .lambda [.mk .positional param none]
    (.display .tuple [.name "this", .name "name", .attribute (.literal .none) "name"])

/-- The parameter of `ctx => name` captures the data that the name is read from. -/
example : ¬ (Expr.lambda [.mk .positional "ctx" none] (.name "name")).Becomes (.uncaptured "ctx")
    ⟨[], [], []⟩ ((Expr.lambda [.mk .positional "ctx" none] (.name "name")).redirect "ctx" []) := by
  show ¬ Expr.Becomes _ _ _ (.lambda [.mk .positional "ctx" none] (.resolve "name"))
  simp [Expr.Becomes, ParamsBecome, OptionBecomes, Outcome.uncaptured, Site.inLambda, Param.name,
    Expr.resolve, Expr.apply, contextName]

end Curly
