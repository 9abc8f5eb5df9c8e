import Curly.Proofs.Expr.Site
import Curly.Proofs.Term.Reader

/-!
What redirection makes of the names and attributes of an expression.

Redirection carries its scopes along, and what it makes of a name depends on what it met before: an
assigned name counts as bound only behind its assignment. Still, the scopes at a site hold all names
that are taken for bound there, and no others but those that assignments and loops bind. This is all
that the results need to know of the scopes.
-/

namespace Curly

namespace Redirect

/-- The names that scopes bind. -/
def namesOf (scopes : List NameScope) : List String := scopes.flatMap NameScope.names

/-! ## What redirection does to the scopes -/

/-- Scopes after some names were assigned, the last one first. -/
def addAll (ids : List String) (scopes : List NameScope) : List NameScope :=
  ids.foldr addAssigned scopes

theorem addAll_append (ids ids' : List String) (scopes : List NameScope) :
    addAll (ids ++ ids') scopes = addAll ids (addAll ids' scopes) :=
  List.foldr_append

/-- The scope of a function takes up what is assigned. -/
theorem addAll_function (ids names : List String) (scopes : List NameScope) :
    addAll ids (⟨true, names⟩ :: scopes) = ⟨true, ids ++ names⟩ :: scopes := by
  induction ids with
  | nil => rfl
  | cons id ids ih =>
      rw [addAll] at ih ⊢
      rw [List.foldr_cons, ih]
      rfl

/-- The scope of a comprehension lets pass what is assigned. -/
theorem addAll_comprehension (ids names : List String) (scopes : List NameScope) :
    addAll ids (⟨false, names⟩ :: scopes) = ⟨false, names⟩ :: addAll ids scopes := by
  induction ids with
  | nil => rfl
  | cons id ids ih =>
      rw [addAll] at ih ⊢
      rw [List.foldr_cons, ih]
      rfl

theorem addAssigned_eq_nil {id : String} {scopes : List NameScope} :
    addAssigned id scopes = [] ↔ scopes = [] := by
  cases scopes with
  | nil => simp [addAssigned]
  | cons s ss =>
      rw [addAssigned]
      split
      · simp
      · simp

theorem namesOf_addAssigned_subset (id : String) (scopes : List NameScope) :
    namesOf (addAssigned id scopes) ⊆ id :: namesOf scopes := by
  induction scopes with
  | nil => simp [addAssigned, namesOf]
  | cons s ss ih =>
      rw [addAssigned]
      split
      · simp [namesOf]
      · intro x hx
        rw [namesOf, List.flatMap_cons, List.mem_append] at hx
        rcases hx with hs | hss
        · simp [namesOf, hs]
        · have hmem : x = id ∨ x ∈ namesOf ss := List.mem_cons.mp (ih hss)
          rcases hmem with rfl | hss'
          · simp
          · simp only [namesOf, List.flatMap_cons, List.mem_cons, List.mem_append]
            exact .inr (.inr hss')

theorem subset_namesOf_addAssigned (id : String) (scopes : List NameScope) :
    namesOf scopes ⊆ namesOf (addAssigned id scopes) := by
  induction scopes with
  | nil => simp [namesOf]
  | cons s ss ih =>
      rw [addAssigned]
      intro x hx
      rw [namesOf, List.flatMap_cons, List.mem_append] at hx
      split
      · rw [namesOf, List.flatMap_cons, List.mem_append]
        exact hx.imp_left (List.mem_cons_of_mem id)
      · rw [namesOf, List.flatMap_cons, List.mem_append]
        exact hx.imp_right fun h => ih h

/-- Redirection assigns some of the names of a list, in an order that the scopes have no part in. -/
def Assigns (ids : List String) (m : Redirect α) : Prop :=
  ∀ scopes, ∃ l, l ⊆ ids ∧ (m scopes).2 = addAll l scopes

namespace Assigns

theorem pure (ids : List String) (a : α) : Assigns ids (pure a : Redirect α) :=
  fun _ => ⟨[], List.nil_subset ids, rfl⟩

theorem mono {ids ids' : List String} {m : Redirect α} (h : Assigns ids m) (hsub : ids ⊆ ids') :
    Assigns ids' m := by
  intro scopes
  obtain ⟨l, hl, hm⟩ := h scopes
  exact ⟨l, List.Subset.trans hl hsub, hm⟩

theorem bind {ids ids' : List String} {m : Redirect α} {k : α → Redirect β}
    (hm : Assigns ids m) (hk : ∀ a, Assigns ids' (k a)) : Assigns (ids ++ ids') (m >>= k) := by
  intro scopes
  obtain ⟨l, hl, hm⟩ := hm scopes
  -- the second part adds to the scopes that the first one leaves
  obtain ⟨l', hl', hk⟩ := hk (m scopes).1 (m scopes).2
  refine ⟨l' ++ l, ?_, ?_⟩
  · refine List.append_subset.mpr ⟨?_, ?_⟩
    · exact List.Subset.trans hl' (List.subset_append_right ids ids')
    · exact List.Subset.trans hl (List.subset_append_left ids ids')
  · rw [addAll_append, ← hm]
    exact hk

/-- What is made of a result assigns nothing. -/
theorem map {ids : List String} {m : Redirect α} (h : Assigns ids m) (f : α → β) :
    Assigns ids (m >>= fun a => Pure.pure (f a)) := by
  have hbind : Assigns (ids ++ []) (m >>= fun a => Pure.pure (f a)) :=
    h.bind fun a => Assigns.pure [] (f a)
  rwa [List.append_nil] at hbind

/-- An assignment. -/
theorem assign {ids : List String} (id : String) (a : α) (h : id ∈ ids) :
    Assigns ids (do modify (addAssigned id); return a) := by
  intro scopes
  refine ⟨[id], ?_, rfl⟩
  simpa using h

/-- In the scope of a function nothing is assigned outside. -/
theorem inFunction {ids : List String} {m : Redirect α} (names : List String) (f : α → β)
    (h : Assigns ids m) : Assigns [] (do enter ⟨true, names⟩; let a ← m; leave; return f a) := by
  intro scopes
  obtain ⟨l, -, hl⟩ := h (⟨true, names⟩ :: scopes)
  refine ⟨[], List.nil_subset [], ?_⟩
  show (m (⟨true, names⟩ :: scopes)).2.drop 1 = scopes
  rw [hl, addAll_function]
  rfl

end Assigns

/-- Redirection assigns some of the names of a list from the inside of a comprehension, where it may
bind names, too. -/
def AssignsWithin (ids : List String) (m : Redirect α) : Prop :=
  ∀ names scopes, ∃ names' l, l ⊆ ids ∧
    (m (⟨false, names⟩ :: scopes)).2 = ⟨false, names'⟩ :: addAll l scopes

theorem Assigns.within {ids : List String} {m : Redirect α} (h : Assigns ids m) :
    AssignsWithin ids m := by
  intro names scopes
  obtain ⟨l, hl, hm⟩ := h (⟨false, names⟩ :: scopes)
  exact ⟨names, l, hl, hm.trans (addAll_comprehension l names scopes)⟩

namespace AssignsWithin

theorem mono {ids ids' : List String} {m : Redirect α} (h : AssignsWithin ids m)
    (hsub : ids ⊆ ids') : AssignsWithin ids' m := by
  intro names scopes
  obtain ⟨names', l, hl, hm⟩ := h names scopes
  exact ⟨names', l, List.Subset.trans hl hsub, hm⟩

theorem bindNames (names : List String) : AssignsWithin [] (Redirect.bind names) :=
  fun names' _ => ⟨names ++ names', [], List.nil_subset [], rfl⟩

theorem bind {ids ids' : List String} {m : Redirect α} {k : α → Redirect β}
    (hm : AssignsWithin ids m) (hk : ∀ a, AssignsWithin ids' (k a)) :
    AssignsWithin (ids ++ ids') (m >>= k) := by
  intro names scopes
  obtain ⟨names', l, hl, hm⟩ := hm names scopes
  obtain ⟨names'', l', hl', hk⟩ := hk (m (⟨false, names⟩ :: scopes)).1 names' (addAll l scopes)
  refine ⟨names'', l' ++ l, ?_, ?_⟩
  · refine List.append_subset.mpr ⟨?_, ?_⟩
    · exact List.Subset.trans hl' (List.subset_append_right ids ids')
    · exact List.Subset.trans hl (List.subset_append_left ids ids')
  · rw [addAll_append, ← hk, ← hm]
    rfl

/-- What is assigned in a comprehension is assigned around it. -/
theorem inComprehension {ids : List String} {m : Redirect α} (f : α → β)
    (h : AssignsWithin ids m) :
    Assigns ids (do enter ⟨false, []⟩; let a ← m; leave; return f a) := by
  intro scopes
  obtain ⟨names', l, hl, hm⟩ := h [] scopes
  refine ⟨l, hl, ?_⟩
  show (m (⟨false, []⟩ :: scopes)).2.drop 1 = addAll l scopes
  rw [hm]
  rfl

end AssignsWithin

/-- What redirection does inside of a comprehension. -/
def inside (this : String) (target : Expr) (tests : List Expr) (rest : List Clause) (e : Expr)
    (v : Option Expr) : Redirect (List Expr × List Clause × Expr × Option Expr) := do
  Redirect.bind target.names
  let tests ← redirectedAll this tests
  let rest ← redirectedClauses this rest
  let e ← e.redirected this
  return (tests, rest, e, ← redirectedOption this v)

end Redirect

open Redirect

/-- A comprehension is redirected inside of a scope of its own, but for its first iterable. -/
theorem Expr.redirected_comprehension (this : String) (kind : ComprehensionKind) (e : Expr)
    (v : Option Expr) (asynchronous : Bool) (target iterable : Expr) (tests : List Expr)
    (rest : List Clause) :
    (Expr.comprehension kind e v (.mk asynchronous target iterable tests :: rest)).redirected this =
      (do
        let iterable ← iterable.redirected this
        enter ⟨false, []⟩
        let x ← inside this target tests rest e v
        leave
        return .comprehension kind x.2.2.1 x.2.2.2
          (.mk asynchronous target iterable x.1 :: x.2.1)) := rfl

theorem Expr.fst_redirected_comprehension (this : String) (kind : ComprehensionKind) (e : Expr)
    (v : Option Expr) (asynchronous : Bool) (target iterable : Expr) (tests : List Expr)
    (rest : List Clause) (scopes : List NameScope) :
    ((Expr.comprehension kind e v (.mk asynchronous target iterable tests :: rest)).redirected this
        scopes).1 =
      let x := (inside this target tests rest e v
        (⟨false, []⟩ :: (iterable.redirected this scopes).2)).1
      .comprehension kind x.2.2.1 x.2.2.2
        (.mk asynchronous target (iterable.redirected this scopes).1 x.1 :: x.2.1) := rfl

mutual

/-- Redirection assigns what the expression assigns in the function that it stands in. -/
theorem Expr.assigns_redirected (this : String) :
    ∀ e : Expr, Assigns e.assigned (e.redirected this)
  | .name id => fun scopes => ⟨[], List.nil_subset _, by rw [Expr.redirected_name]; rfl⟩
  | .literal v => by
      rw [Expr.redirected]
      exact .pure _ _
  | .unary op e => by
      rw [Expr.redirected, Expr.assigned]
      exact (e.assigns_redirected this).map _
  | .binary op l r => by
      rw [Expr.redirected, Expr.assigned]
      exact (l.assigns_redirected this).bind fun _ => (r.assigns_redirected this).map _
  | .logical op es => by
      rw [Expr.redirected, Expr.assigned]
      exact (assigns_redirectedAll this es).map _
  | .compare e links => by
      rw [Expr.redirected, Expr.assigned]
      exact (e.assigns_redirected this).bind fun _ => (assigns_redirectedLinks this links).map _
  | .ifElse t b o => by
      rw [Expr.redirected, Expr.assigned, List.append_assoc]
      exact (t.assigns_redirected this).bind fun _ =>
        (b.assigns_redirected this).bind fun _ => (o.assigns_redirected this).map _
  | .lambda ps b => by
      rw [Expr.redirected, Expr.assigned]
      -- what the body assigns stays in the scope of the lambda
      refine Assigns.mono ((assigns_redirectedDefaults this _ ps).bind fun _ =>
        (assigns_redirectedDefaults this _ ps).bind fun _ =>
          (b.assigns_redirected this).inFunction _ _) ?_
      simp
  | .call f args => by
      rw [Expr.redirected, Expr.assigned]
      exact (f.assigns_redirected this).bind fun _ => (assigns_redirectedArguments this args).map _
  | .attribute e name => by
      rw [Expr.redirected, Expr.assigned]
      exact (e.assigns_redirected this).map _
  | .subscript e i => by
      rw [Expr.redirected, Expr.assigned]
      exact (e.assigns_redirected this).bind fun _ => (i.assigns_redirected this).map _
  | .slice lo hi step => by
      rw [Expr.redirected, Expr.assigned, List.append_assoc]
      exact (assigns_redirectedOption this lo).bind fun _ =>
        (assigns_redirectedOption this hi).bind fun _ => (assigns_redirectedOption this step).map _
  | .display kind es => by
      rw [Expr.redirected, Expr.assigned]
      exact (assigns_redirectedAll this es).map _
  | .dict items => by
      rw [Expr.redirected, Expr.assigned]
      refine Assigns.mono ((assigns_redirectedKeys this items).bind fun _ =>
        (assigns_redirectedValues this items).map _) ?_
      simp
  | .starred e => by
      rw [Expr.redirected, Expr.assigned]
      exact (e.assigns_redirected this).map _
  | .comprehension kind e v [] => by
      rw [Expr.redirected]
      exact .pure _ _
  | .comprehension kind e v (.mk asynchronous target iterable tests :: rest) => by
      -- the scope of the comprehension takes up its targets and lets all assignments pass
      have hinside : AssignsWithin _ (inside this target tests rest e v) :=
        (AssignsWithin.bindNames target.names).bind fun _ =>
          (assigns_redirectedAll this tests).within.bind fun _ =>
            (assigns_redirectedClauses this rest).bind fun _ =>
              (e.assigns_redirected this).within.bind fun _ =>
                ((assigns_redirectedOption this v).map _).within
      rw [Expr.redirected_comprehension]
      refine Assigns.mono ((iterable.assigns_redirected this).bind fun _ =>
        hinside.inComprehension _) ?_
      intro x hx
      simp only [Expr.assigned, assignedOfClauses, List.nil_append, List.mem_append] at hx ⊢
      grind
  | .assign target e => by
      rw [Expr.redirected, Expr.assigned]
      refine Assigns.mono ((e.assigns_redirected this).bind fun e' =>
        Assigns.assign target (Expr.assign target e') (List.mem_singleton.mpr rfl)) ?_
      simp
  | .await e => by
      rw [Expr.redirected, Expr.assigned]
      exact (e.assigns_redirected this).map _

theorem assigns_redirectedAll (this : String) :
    ∀ es : List Expr, Assigns (assignedOfExprs es) (redirectedAll this es)
  | [] => .pure _ _
  | e :: es => by
      rw [redirectedAll, assignedOfExprs]
      exact (e.assigns_redirected this).bind fun _ => (assigns_redirectedAll this es).map _

theorem assigns_redirectedOption (this : String) :
    ∀ e : Option Expr, Assigns (assignedOfOption e) (redirectedOption this e)
  | none => .pure _ _
  | some e => by
      rw [redirectedOption, assignedOfOption]
      exact (e.assigns_redirected this).map _

theorem assigns_redirectedLinks (this : String) :
    ∀ ls : List Link, Assigns (assignedOfLinks ls) (redirectedLinks this ls)
  | [] => .pure _ _
  | .mk op e :: ls => by
      rw [redirectedLinks, assignedOfLinks]
      exact (e.assigns_redirected this).bind fun _ => (assigns_redirectedLinks this ls).map _

theorem assigns_redirectedDefaults (this : String) (pick : ParamKind → Bool) :
    ∀ ps : List Param, Assigns (assignedOfParams ps) (redirectedDefaults this pick ps)
  | [] => .pure _ _
  | .mk kind name d :: ps => by
      rw [redirectedDefaults, assignedOfParams]
      split
      · exact (assigns_redirectedOption this d).bind fun _ =>
          (assigns_redirectedDefaults this pick ps).map _
      · exact ((assigns_redirectedDefaults this pick ps).map _).mono (List.subset_append_right _ _)

theorem assigns_redirectedArguments (this : String) :
    ∀ as : List Argument, Assigns (assignedOfArguments as) (redirectedArguments this as)
  | [] => .pure _ _
  | .positional e :: as => by
      rw [redirectedArguments, assignedOfArguments]
      exact (e.assigns_redirected this).bind fun _ => (assigns_redirectedArguments this as).map _
  | .keyword name e :: as => by
      rw [redirectedArguments, assignedOfArguments]
      exact (e.assigns_redirected this).bind fun _ => (assigns_redirectedArguments this as).map _
  | .spread e :: as => by
      rw [redirectedArguments, assignedOfArguments]
      exact (e.assigns_redirected this).bind fun _ => (assigns_redirectedArguments this as).map _

theorem assigns_redirectedKeys (this : String) :
    ∀ is : List DictItem, Assigns (assignedOfItems is) (redirectedKeys this is)
  | [] => .pure _ _
  | .entry k v :: is => by
      rw [redirectedKeys, assignedOfItems]
      refine Assigns.mono ((k.assigns_redirected this).bind fun _ =>
        (assigns_redirectedKeys this is).map _) ?_
      simp
  | .spread e :: is => by
      rw [redirectedKeys, assignedOfItems]
      exact ((assigns_redirectedKeys this is).map _).mono (List.subset_append_right _ _)

theorem assigns_redirectedValues (this : String) :
    ∀ is : List DictItem, Assigns (assignedOfItems is) (redirectedValues this is)
  | [] => .pure _ _
  | .entry k v :: is => by
      rw [redirectedValues, assignedOfItems, List.append_assoc]
      exact Assigns.mono ((v.assigns_redirected this).bind fun _ =>
        (assigns_redirectedValues this is).map _) (List.subset_append_right _ _)
  | .spread e :: is => by
      rw [redirectedValues, assignedOfItems]
      exact (e.assigns_redirected this).bind fun _ => (assigns_redirectedValues this is).map _

theorem assigns_redirectedClauses (this : String) :
    ∀ cs : List Clause, AssignsWithin (assignedOfClauses cs) (redirectedClauses this cs)
  | [] => (Assigns.pure _ _).within
  | .mk asynchronous target iterable tests :: cs => by
      rw [redirectedClauses]
      have hall : AssignsWithin _ _ :=
        (iterable.assigns_redirected this).within.bind fun iterable' =>
          (AssignsWithin.bindNames target.names).bind fun _ =>
            (assigns_redirectedAll this tests).within.bind fun tests' =>
              (assigns_redirectedClauses this cs).bind fun cs' =>
                (Assigns.pure [] (Clause.mk asynchronous target iterable' tests' :: cs')).within
      -- The same names, but in the order of the passage.
      refine hall.mono ?_
      intro x hx
      simp only [assignedOfClauses, List.nil_append, List.append_nil, List.mem_append] at hx ⊢
      grind

end

/-! ## The scopes at a site -/

/-- The scopes that redirection may have at a site: they bind all names that are taken for bound
there, and of others only those that assignments and loops bind there. -/
structure Site.Fits (P : Site) (scopes : List NameScope) : Prop where
  nonempty : scopes ≠ []
  taken : P.taken ⊆ namesOf scopes
  known : namesOf scopes ⊆ P.others ++ P.taken

namespace Site.Fits

variable {P : Site} {scopes : List NameScope}

theorem addAssigned {id : String} (h : P.Fits scopes) (hid : id ∈ P.others) :
    P.Fits (Redirect.addAssigned id scopes) where
  nonempty := fun hnil => h.nonempty (addAssigned_eq_nil.mp hnil)
  taken := List.Subset.trans h.taken (subset_namesOf_addAssigned id scopes)
  known := List.Subset.trans (namesOf_addAssigned_subset id scopes)
    (List.cons_subset.mpr ⟨List.mem_append_left _ hid, h.known⟩)

theorem addAll {ids : List String} (h : P.Fits scopes) (hids : ids ⊆ P.others) :
    P.Fits (Redirect.addAll ids scopes) := by
  induction ids with
  | nil => exact h
  | cons id ids ih =>
      obtain ⟨hid, hids⟩ := List.cons_subset.mp hids
      exact (ih hids).addAssigned hid

theorem inLambda (h : P.Fits scopes) (ps : List Param) (body : Expr) :
    (P.inLambda ps body).Fits (⟨true, paramNamesOfParams ps⟩ :: scopes) where
  nonempty := List.cons_ne_nil _ _
  taken := List.append_subset.mpr
    ⟨List.subset_append_left _ _, List.subset_append_of_subset_right _ h.taken⟩
  known := by
    intro x hx
    have hmem : x ∈ paramNamesOfParams ps ∨ x ∈ namesOf scopes := List.mem_append.mp hx
    have hknown : x ∈ namesOf scopes → x ∈ P.others ∨ x ∈ P.taken :=
      fun hs => List.mem_append.mp (h.known hs)
    simp only [Site.inLambda, List.mem_append]
    grind

theorem inComprehension (h : P.Fits scopes) (cs : List Clause) :
    (P.inComprehension cs).Fits (⟨false, []⟩ :: scopes) where
  nonempty := List.cons_ne_nil _ _
  taken := h.taken
  known := h.known

theorem afterTarget (h : P.Fits scopes) (target : Expr) :
    (P.afterTarget target).Fits (Redirect.bind target.names scopes).2 := by
  cases scopes with
  | nil => exact absurd rfl h.nonempty
  | cons s ss =>
      have hnames : namesOf (Redirect.bind target.names (s :: ss)).2 =
          target.names ++ namesOf (s :: ss) := List.append_assoc _ _ _
      refine ⟨List.cons_ne_nil _ _, ?_, ?_⟩
      · rw [hnames]
        exact List.append_subset.mpr
          ⟨List.subset_append_left _ _, List.subset_append_of_subset_right _ h.taken⟩
      · rw [hnames]
        intro x hx
        have hmem : x ∈ target.names ∨ x ∈ namesOf (s :: ss) := List.mem_append.mp hx
        have hknown : x ∈ namesOf (s :: ss) → x ∈ P.others ∨ x ∈ P.taken :=
          fun hs => List.mem_append.mp (h.known hs)
        simp only [Site.afterTarget, List.mem_append]
        grind

end Site.Fits

/-- From the scopes of a site redirection leads to those of another one, with a result that has a
property. -/
def Redirect.Leads (P P' : Site) (m : Redirect α) (Q : α → Prop) : Prop :=
  ∀ scopes, P.Fits scopes → Q (m scopes).1 ∧ P'.Fits (m scopes).2

namespace Redirect.Leads

variable {P P' P'' : Site}

theorem pure {Q : α → Prop} {a : α} (h : Q a) : Leads P P (pure a) Q :=
  fun _ hP => ⟨h, hP⟩

theorem bind {Q : α → Prop} {R : β → Prop} {m : Redirect α} {k : α → Redirect β}
    (hm : Leads P P' m Q) (hk : ∀ a, Q a → Leads P' P'' (k a) R) : Leads P P'' (m >>= k) R := by
  intro scopes hP
  obtain ⟨hQ, hP'⟩ := hm scopes hP
  exact hk _ hQ _ hP'

theorem map {Q : α → Prop} {R : β → Prop} {m : Redirect α} {f : α → β} (hm : Leads P P' m Q)
    (hf : ∀ a, Q a → R (f a)) : Leads P P' (m >>= fun a => Pure.pure (f a)) R :=
  hm.bind fun a ha => Leads.pure (hf a ha)

theorem bindNames (target : Expr) :
    Leads P (P.afterTarget target) (Redirect.bind target.names) fun _ => True :=
  fun _ hP => ⟨trivial, hP.afterTarget target⟩

/-- What assigns only names that assignments bind at a site leads back to it. -/
theorem ofAssigns {ids : List String} {Q : α → Prop} {m : Redirect α} (hm : Assigns ids m)
    (hids : ids ⊆ P.others) (hQ : ∀ scopes, P.Fits scopes → Q (m scopes).1) : Leads P P m Q := by
  intro scopes hP
  obtain ⟨l, hl, hm⟩ := hm scopes
  refine ⟨hQ scopes hP, ?_⟩
  rw [hm]
  exact hP.addAll (List.Subset.trans hl hids)

end Redirect.Leads

end Curly
