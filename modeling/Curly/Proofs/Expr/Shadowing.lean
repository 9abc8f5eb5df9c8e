import Curly.Proofs.Expr.Outcome

/-!
Names of loops and the data. The loops around an expression show in two ways in what redirection
makes of it: `this` is another name, and a name that nothing in the expression binds stays as it is
if a loop binds it. So inside of loops an expression becomes what it becomes outside, unless it has
a `this`, or reads a name from the data that is spelled like one that a loop binds.

The same expression is redirected twice, step by step: the scopes are the same in both runs, but for
the names of the loops, which the outermost scope binds in one of them only.
-/

namespace Curly

/-- A relation holds along three lists. -/
inductive Forall₃ {α β γ : Type} (R : α → β → γ → Prop) : List α → List β → List γ → Prop
  | nil : Forall₃ R [] [] []
  | cons {a : α} {b : β} {c : γ} {as : List α} {bs : List β} {cs : List γ} (h : R a b c)
      (hs : Forall₃ R as bs cs) : Forall₃ R (a :: as) (b :: bs) (c :: cs)

theorem Forall₃.imp {α β γ : Type} {R T : α → β → γ → Prop} {as : List α} {bs : List β}
    {cs : List γ} (h : Forall₃ R as bs cs) (hRT : ∀ a b c, R a b c → T a b c) :
    Forall₃ T as bs cs := by
  induction h with
  | nil => exact .nil
  | cons hr _ ih => exact .cons (hRT _ _ _ hr) ih

/-! ## Rules that hold at all sites -/

/-- A rule that asks for nothing. -/
structure Rule.IsTrivial (r : Rule) : Prop where
  read : ∀ P id, r.read P id
  member : ∀ P, r.member P
  kept : ∀ P id, r.kept P id

theorem Rule.isTrivial_keeping {kept : Site → String → Prop} (h : ∀ P id, kept P id) :
    (Rule.keeping kept).IsTrivial := ⟨h, fun _ => trivial, h⟩

mutual

/-- A rule that asks for nothing holds everywhere. -/
theorem Rule.IsTrivial.everywhere {r : Rule} (h : r.IsTrivial) (P : Site) :
    (e : Expr) → e.Everywhere r P
  | .name id => by
      rw [Expr.Everywhere]
      exact h.read P id
  | .literal _ => by
      rw [Expr.Everywhere]
      trivial
  | .unary _ e | .starred e | .assign _ e | .await e => by
      rw [Expr.Everywhere]
      exact h.everywhere P e
  | .binary _ left right => by
      rw [Expr.Everywhere]
      exact ⟨h.everywhere P left, h.everywhere P right⟩
  | .logical _ es | .display _ es => by
      rw [Expr.Everywhere]
      exact h.everywhereInAll P es
  | .compare e links => by
      rw [Expr.Everywhere]
      exact ⟨h.everywhere P e, h.everywhereInLinks P links⟩
  | .ifElse t b o => by
      rw [Expr.Everywhere]
      exact ⟨h.everywhere P t, h.everywhere P b, h.everywhere P o⟩
  | .lambda ps b => by
      rw [Expr.Everywhere]
      exact ⟨h.everywhereInParams P ps, h.everywhere _ b⟩
  | .call f args => by
      rw [Expr.Everywhere]
      exact ⟨h.everywhere P f, h.everywhereInArguments P args⟩
  | .attribute e _ => by
      rw [Expr.Everywhere]
      exact ⟨h.member P, h.everywhere P e⟩
  | .subscript e i => by
      rw [Expr.Everywhere]
      exact ⟨h.everywhere P e, h.everywhere P i⟩
  | .slice lo hi step => by
      rw [Expr.Everywhere]
      exact ⟨h.everywhereInOption P lo, h.everywhereInOption P hi, h.everywhereInOption P step⟩
  | .dict items => by
      rw [Expr.Everywhere]
      exact h.everywhereInItems P items
  | .comprehension _ e v [] => by
      -- behind the last clause the rule is that of the names that are kept, which asks for nothing
      -- either
      rw [Expr.Everywhere]
      have hkeeping := Rule.isTrivial_keeping h.kept
      exact ⟨hkeeping.everywhere P e, hkeeping.everywhereInOption P v⟩
  | .comprehension _ e v (.mk _ target iterable tests :: rest) => by
      rw [Expr.Everywhere]
      exact ⟨h.everywhere P iterable, everywhereInTarget h.kept _ target, h.everywhereInAll _ tests,
        h.everywhereInClauses _ rest, h.everywhere _ e, h.everywhereInOption _ v⟩

theorem Rule.IsTrivial.everywhereInAll {r : Rule} (h : r.IsTrivial) (P : Site) :
    (es : List Expr) → EverywhereInAll r P es
  | [] => by
      rw [EverywhereInAll]
      trivial
  | e :: es => by
      rw [EverywhereInAll]
      exact ⟨h.everywhere P e, h.everywhereInAll P es⟩

theorem Rule.IsTrivial.everywhereInOption {r : Rule} (h : r.IsTrivial) (P : Site) :
    (e : Option Expr) → EverywhereInOption r P e
  | none => by
      rw [EverywhereInOption]
      trivial
  | some e => by
      rw [EverywhereInOption]
      exact h.everywhere P e

theorem Rule.IsTrivial.everywhereInLinks {r : Rule} (h : r.IsTrivial) (P : Site) :
    (ls : List Link) → EverywhereInLinks r P ls
  | [] => by
      rw [EverywhereInLinks]
      trivial
  | .mk _ e :: ls => by
      rw [EverywhereInLinks]
      exact ⟨h.everywhere P e, h.everywhereInLinks P ls⟩

theorem Rule.IsTrivial.everywhereInParams {r : Rule} (h : r.IsTrivial) (P : Site) :
    (ps : List Param) → EverywhereInParams r P ps
  | [] => by
      rw [EverywhereInParams]
      trivial
  | .mk _ _ d :: ps => by
      rw [EverywhereInParams]
      exact ⟨h.everywhereInOption P d, h.everywhereInParams P ps⟩

theorem Rule.IsTrivial.everywhereInArguments {r : Rule} (h : r.IsTrivial) (P : Site) :
    (as : List Argument) → EverywhereInArguments r P as
  | [] => by
      rw [EverywhereInArguments]
      trivial
  | .positional e :: as | .keyword _ e :: as | .spread e :: as => by
      rw [EverywhereInArguments]
      exact ⟨h.everywhere P e, h.everywhereInArguments P as⟩

theorem Rule.IsTrivial.everywhereInItems {r : Rule} (h : r.IsTrivial) (P : Site) :
    (is : List DictItem) → EverywhereInItems r P is
  | [] => by
      rw [EverywhereInItems]
      trivial
  | .entry k v :: is => by
      rw [EverywhereInItems]
      exact ⟨h.everywhere P k, h.everywhere P v, h.everywhereInItems P is⟩
  | .spread e :: is => by
      rw [EverywhereInItems]
      exact ⟨h.everywhere P e, h.everywhereInItems P is⟩

theorem Rule.IsTrivial.everywhereInClauses {r : Rule} (h : r.IsTrivial) (P : Site) :
    (cs : List Clause) → EverywhereInClauses r P cs
  | [] => by
      rw [EverywhereInClauses]
      trivial
  | .mk _ target iterable tests :: cs => by
      rw [EverywhereInClauses]
      exact ⟨h.everywhere P iterable, everywhereInTarget h.kept P target,
        h.everywhereInAll _ tests, h.everywhereInClauses _ cs⟩

theorem everywhereInTarget {kept : Site → String → Prop} (h : ∀ P id, kept P id) (P : Site) :
    (e : Expr) → e.EverywhereInTarget kept P
  | .starred e => by
      rw [Expr.EverywhereInTarget]
      exact everywhereInTarget h P e
  | .display _ es => by
      rw [Expr.EverywhereInTarget]
      exact everywhereInTargets h P es
  | .attribute e _ => by
      rw [Expr.EverywhereInTarget]
      exact (Rule.isTrivial_keeping h).everywhere P e
  | .subscript e i => by
      rw [Expr.EverywhereInTarget]
      exact ⟨(Rule.isTrivial_keeping h).everywhere P e, (Rule.isTrivial_keeping h).everywhere P i⟩
  | .name _ | .literal _ | .unary .. | .binary .. | .logical .. | .compare .. | .ifElse ..
  | .lambda .. | .call .. | .slice .. | .dict _ | .comprehension .. | .assign .. | .await _ => by
      simp [Expr.EverywhereInTarget]

theorem everywhereInTargets {kept : Site → String → Prop} (h : ∀ P id, kept P id) (P : Site) :
    (es : List Expr) → EverywhereInTargets kept P es
  | [] => by
      rw [EverywhereInTargets]
      trivial
  | e :: es => by
      rw [EverywhereInTargets]
      exact ⟨everywhereInTarget h P e, everywhereInTargets h P es⟩

end


/-! ## Two runs -/

namespace Redirect

/-- Scopes that are the same, but for some names that the outermost one of the second ones binds,
too; and how many scopes there are inside of this one. -/
inductive Beneath (names : List String) : Nat → List NameScope → List NameScope → Prop
  | outermost (ofFunction : Bool) (own : List String) :
      Beneath names 0 [⟨ofFunction, own⟩] [⟨ofFunction, own ++ names⟩]
  | inner {depth : Nat} {scopes others : List NameScope} (s : NameScope)
      (h : Beneath names depth scopes others) :
      Beneath names (depth + 1) (s :: scopes) (s :: others)

namespace Beneath

variable {names : List String} {depth : Nat} {scopes others : List NameScope}

theorem any_contains (h : Beneath names depth scopes others) (id : String) :
    others.any (·.names.contains id) =
      (scopes.any (·.names.contains id) || names.contains id) := by
  induction h with
  | outermost ofFunction own => simp
  | inner s h ih => rw [List.any_cons, List.any_cons, ih, Bool.or_assoc]

theorem addAssigned (h : Beneath names depth scopes others) (id : String) :
    Beneath names depth (Redirect.addAssigned id scopes) (Redirect.addAssigned id others) := by
  induction h with
  | outermost ofFunction own =>
      cases ofFunction with
      | true => exact .outermost true (id :: own)
      | false => exact .outermost false own
  | inner s h ih =>
      rw [Redirect.addAssigned, Redirect.addAssigned]
      split
      · exact .inner _ h
      · exact .inner s ih

theorem bind (h : Beneath names depth scopes others) (ids : List String) :
    Beneath names depth (Redirect.bind ids scopes).2 (Redirect.bind ids others).2 := by
  cases h with
  | outermost ofFunction own =>
      have hlast : Beneath names 0 [⟨ofFunction, ids ++ own⟩]
          [⟨ofFunction, (ids ++ own) ++ names⟩] := .outermost ofFunction (ids ++ own)
      rw [List.append_assoc] at hlast
      exact hlast
  | inner s h => exact .inner _ h

end Beneath

/-- Two redirections, in scopes without some names and with them, lead to such scopes again, and
their results are related. -/
def Parallel (names : List String) (m n : Redirect α) (R : α → α → Prop) : Prop :=
  ∀ depth scopes others, Beneath names depth scopes others →
    R (m scopes).1 (n others).1 ∧ Beneath names depth (m scopes).2 (n others).2

namespace Parallel

variable {names : List String} {R : α → α → Prop} {T : β → β → Prop}

theorem pure {a b : α} (h : R a b) : Parallel names (pure a) (pure b) R :=
  fun _ _ _ hs => ⟨h, hs⟩

theorem bind {m n : Redirect α} {k l : α → Redirect β} (h : Parallel names m n R)
    (hk : ∀ a b, R a b → Parallel names (k a) (l b) T) : Parallel names (m >>= k) (n >>= l) T := by
  intro depth scopes others hs
  obtain ⟨hR, hs⟩ := h _ _ _ hs
  exact hk _ _ hR _ _ _ hs

theorem map {m n : Redirect α} {f g : α → β} (h : Parallel names m n R)
    (hf : ∀ a b, R a b → T (f a) (g b)) :
    Parallel names (m >>= fun a => Pure.pure (f a)) (n >>= fun b => Pure.pure (g b)) T :=
  h.bind fun a b hab => .pure (hf a b hab)

/-- What is done inside of a scope is done in scopes that are the same but for the names, too. -/
theorem inScope {m n : Redirect α} {f g : α → β} (s : NameScope) (h : Parallel names m n R)
    (hf : ∀ a b, R a b → T (f a) (g b)) :
    Parallel names (do enter s; let a ← m; leave; return f a)
      (do enter s; let b ← n; leave; return g b) T := by
  intro depth scopes others hs
  obtain ⟨hR, hinside⟩ := h _ _ _ (.inner s hs)
  refine ⟨hf _ _ hR, ?_⟩
  show Beneath names depth ((m (s :: scopes)).2.drop 1) ((n (s :: others)).2.drop 1)
  generalize (m (s :: scopes)).2 = left at hinside ⊢
  generalize (n (s :: others)).2 = right at hinside ⊢
  cases hinside with
  | inner t hs => exact hs

theorem bindNames (ids : List String) :
    Parallel names (Redirect.bind ids) (Redirect.bind ids) fun _ _ => True :=
  fun _ _ _ hs => ⟨trivial, hs.bind ids⟩

theorem assign {a b : α} (id : String) (h : R a b) :
    Parallel names (do modify (addAssigned id); return a) (do modify (addAssigned id); return b)
      R :=
  fun _ _ _ hs => ⟨h, hs.addAssigned id⟩

end Parallel

end Redirect

open Redirect

/-! ## Where the names of loops show -/

/-- No name that reads the data is among some names, and what `this` stands for is the same. -/
def Outcome.unhidden (this that : String) (names : List String) : Outcome where
  read _ id f := if id = "this" then that = this else f = .resolve id → id ∉ names
  member _ := True
  kept _ _ := True

section

variable {this that : String} {names : List String} {P : Site}

/-- Parameters are the same if their defaults are, each of them where it belongs. -/
theorem zipParams_eq_iff {o : Outcome} {ps : List Param}
    {named named' others others' : List (Option Expr)}
    (hnamed : Forall₃ (fun (p : Param) d d' => p.kind = .keywordOnly →
      (d' = d ↔ OptionBecomes o P p.fallback d)) ps named named')
    (hothers : Forall₃ (fun (p : Param) d d' => p.kind ≠ .keywordOnly →
      (d' = d ↔ OptionBecomes o P p.fallback d)) ps others others') :
    zipParams ps named' others' = zipParams ps named others ↔
      ParamsBecome o P ps (zipParams ps named others) := by
  induction hnamed generalizing others others' with
  | nil => simp [zipParams, ParamsBecome]
  | @cons p n n' ps ns ns' hn hns ih =>
      obtain ⟨kind, name, d⟩ := p
      cases hothers with
      | @cons _ d₁ d₂ _ os os' ho hos =>
          -- only the default from the list of the parameter's kind is compared
          have hhead : (if kind = .keywordOnly then n' else d₂) =
              (if kind = .keywordOnly then n else d₁) ↔
                OptionBecomes o P d (if kind = .keywordOnly then n else d₁) := by
            by_cases hkind : kind = .keywordOnly
            · simp only [if_pos hkind]
              exact hn hkind
            · simp only [if_neg hkind]
              exact ho hkind
          simpa [zipParams, ParamsBecome] using and_congr hhead (ih hos)

/-- Dictionary items are the same if their keys and their values are. -/
theorem zipItems_eq_iff {o : Outcome} {items : List DictItem} {keys keys' : List (Option Expr)}
    {values values' : List Expr}
    (hkeys : Forall₃ (fun (i : DictItem) k k' => k.isSome = i.key.isSome ∧
      k'.isSome = i.key.isSome ∧ (k' = k ↔ OptionBecomes o P i.key k)) items keys keys')
    (hvalues : Forall₃ (fun (i : DictItem) v v' => v' = v ↔ i.value.Becomes o P v)
      items values values') :
    zipItems keys' values' = zipItems keys values ↔
      ItemsBecome o P items (zipItems keys values) := by
  induction hkeys generalizing values values' with
  | nil => simp [zipItems, ItemsBecome]
  | @cons i k k' items ks ks' hk hks ih =>
      obtain ⟨hsome, hsome', hk⟩ := hk
      cases hvalues with
      | cons hv hvs =>
          cases i with
          | entry key value =>
              -- an entry has a key in both lists, a spread in neither
              obtain ⟨k, rfl⟩ := Option.isSome_iff_exists.1 hsome
              obtain ⟨k', rfl⟩ := Option.isSome_iff_exists.1 hsome'
              have hkey : k' = k ↔ key.Becomes o P k := by
                simpa [DictItem.key, OptionBecomes] using hk
              simpa [zipItems, ItemsBecome, DictItem.value, and_assoc] using
                and_congr hkey (and_congr hv (ih hvs))
          | spread value =>
              obtain rfl : k = none := by simpa [DictItem.key] using hsome
              obtain rfl : k' = none := by simpa [DictItem.key] using hsome'
              simpa [zipItems, ItemsBecome, DictItem.value] using and_congr hv (ih hvs)

/-- A name becomes the same in both runs, unless it shows where it is. -/
theorem parallel_name (id : String) :
    Parallel names ((Expr.name id).redirected this) ((Expr.name id).redirected that)
      fun e e' => e' = e ↔ (Expr.name id).Becomes (.unhidden this that names) P e := by
  intro depth scopes others hs
  rw [Expr.redirected_name, Expr.redirected_name]
  refine ⟨?_, hs⟩
  simp only [Expr.Becomes, Outcome.unhidden, hs.any_contains id]
  generalize scopes.any (·.names.contains id) = bound
  by_cases hthis : id = "this"
  · simp [hthis]
  by_cases hname : id ∈ names
  · cases bound <;> simp [hthis, hname, Expr.resolve, Expr.apply]
  · cases bound <;> simp [hthis, hname]

mutual

/-- An expression becomes the same in both runs, unless the names show somewhere in it. The
induction is on the expression, and is about all scopes, because they change on the way. -/
theorem Expr.parallel_redirected (P : Site) : (e : Expr) →
    Parallel names (e.redirected this) (e.redirected that)
      fun a b => b = a ↔ e.Becomes (.unhidden this that names) P a
  | .name id => parallel_name id
  | .literal v => by
      rw [Expr.redirected, Expr.redirected]
      refine .pure ?_
      simp [Expr.Becomes]
  | .unary op e => by
      rw [Expr.redirected, Expr.redirected]
      refine (Expr.parallel_redirected P e).map fun a b he => ?_
      simpa [Expr.Becomes] using he
  | .binary op left right => by
      rw [Expr.redirected, Expr.redirected]
      refine (Expr.parallel_redirected P left).bind fun a b hl =>
        (Expr.parallel_redirected P right).map fun a' b' hr => ?_
      simpa [Expr.Becomes] using and_congr hl hr
  | .logical op es => by
      rw [Expr.redirected, Expr.redirected]
      refine (parallel_redirectedAll P es).map fun as bs hes => ?_
      simpa [Expr.Becomes] using hes
  | .compare e links => by
      rw [Expr.redirected, Expr.redirected]
      refine (Expr.parallel_redirected P e).bind fun a b he =>
        (parallel_redirectedLinks P links).map fun as bs hl => ?_
      simpa [Expr.Becomes] using and_congr he hl
  | .ifElse test body orelse => by
      rw [Expr.redirected, Expr.redirected]
      refine (Expr.parallel_redirected P test).bind fun _ _ ht =>
        (Expr.parallel_redirected P body).bind fun _ _ hb =>
          (Expr.parallel_redirected P orelse).map fun _ _ ho => ?_
      simpa [Expr.Becomes] using and_congr ht (and_congr hb ho)
  | .call function args => by
      rw [Expr.redirected, Expr.redirected]
      refine (Expr.parallel_redirected P function).bind fun _ _ hf =>
        (parallel_redirectedArguments P args).map fun _ _ ha => ?_
      simpa [Expr.Becomes] using and_congr hf ha
  | .attribute e name => by
      rw [Expr.redirected, Expr.redirected]
      refine (Expr.parallel_redirected P e).map fun a b he => ?_
      simpa [Expr.Becomes, Outcome.unhidden, Expr.member, Expr.apply, Expr.str] using he
  | .subscript e i => by
      rw [Expr.redirected, Expr.redirected]
      refine (Expr.parallel_redirected P e).bind fun _ _ he =>
        (Expr.parallel_redirected P i).map fun _ _ hi => ?_
      simpa [Expr.Becomes] using and_congr he hi
  | .slice lower upper step => by
      rw [Expr.redirected, Expr.redirected]
      refine (parallel_redirectedOption P lower).bind fun _ _ hl =>
        (parallel_redirectedOption P upper).bind fun _ _ hu =>
          (parallel_redirectedOption P step).map fun _ _ hs => ?_
      simpa [Expr.Becomes] using and_congr hl (and_congr hu hs)
  | .display kind es => by
      rw [Expr.redirected, Expr.redirected]
      refine (parallel_redirectedAll P es).map fun as bs hes => ?_
      simpa [Expr.Becomes] using hes
  | .dict items => by
      rw [Expr.redirected, Expr.redirected]
      refine (parallel_redirectedKeys P items).bind fun _ _ hk =>
        (parallel_redirectedValues P items).map fun _ _ hv => ?_
      simpa [Expr.Becomes] using zipItems_eq_iff hk hv
  | .starred e => by
      rw [Expr.redirected, Expr.redirected]
      refine (Expr.parallel_redirected P e).map fun a b he => ?_
      simpa [Expr.Becomes] using he
  | .assign target e => by
      rw [Expr.redirected, Expr.redirected]
      refine (Expr.parallel_redirected P e).bind fun a b he => .assign target ?_
      simpa [Expr.Becomes] using he
  | .await e => by
      rw [Expr.redirected, Expr.redirected]
      refine (Expr.parallel_redirected P e).map fun a b he => ?_
      simpa [Expr.Becomes] using he
  | .lambda ps body => by
      rw [Expr.redirected, Expr.redirected]
      -- the defaults stand outside; those of parameters that can only be named come first
      refine (parallel_redirectedDefaults P (· == .keywordOnly) ps).bind fun _ _ hn =>
        (parallel_redirectedDefaults P (· != .keywordOnly) ps).bind fun _ _ ho =>
          (Expr.parallel_redirected (P.inLambda ps body) body).inScope _ fun _ _ hb => ?_
      have hps := zipParams_eq_iff (hn.imp fun p d d' h hkind => h (by simpa using hkind))
        (ho.imp fun p d d' h hkind => h (by simpa using hkind))
      simpa [Expr.Becomes] using and_congr hps hb
  | .comprehension kind e v [] => by
      have htrivial : (Rule.keeping (Outcome.unhidden this that names).kept).IsTrivial :=
        Rule.isTrivial_keeping fun _ _ => trivial
      rw [Expr.redirected, Expr.redirected]
      refine .pure ?_
      simp [Expr.Becomes, htrivial.everywhere P e, htrivial.everywhereInOption P v]
  | .comprehension kind e v (.mk asynchronous target iterable tests :: rest) => by
      let all : List Clause := .mk asynchronous target iterable tests :: rest
      -- tests and further clauses stand behind some of the targets, the element behind all of them
      let first : Site := (P.inComprehension all).afterTarget target
      let last : Site := first.afterTargets rest
      have hinside : Parallel names (inside this target tests rest e v)
          (inside that target tests rest e v) fun x y => y = x ↔
            AllBecome (.unhidden this that names) first tests x.1 ∧
              ClausesBecome (.unhidden this that names) first rest x.2.1 ∧
              e.Becomes (.unhidden this that names) last x.2.2.1 ∧
              OptionBecomes (.unhidden this that names) last v x.2.2.2 :=
        (Parallel.bindNames target.names).bind fun _ _ _ =>
          (parallel_redirectedAll first tests).bind fun _ _ ht =>
            (parallel_redirectedClauses first rest).bind fun _ _ hr =>
              (Expr.parallel_redirected last e).bind fun _ _ he =>
                (parallel_redirectedOption last v).map fun _ _ hv => by
                  simpa using and_congr ht (and_congr hr (and_congr he hv))
      have htarget : target.EverywhereInTarget (Outcome.unhidden this that names).kept
          (P.inComprehension all) := everywhereInTarget (fun _ _ => trivial) _ target
      rw [Expr.redirected_comprehension, Expr.redirected_comprehension]
      refine (Expr.parallel_redirected P iterable).bind fun _ _ hi =>
        hinside.inScope _ fun x y hx => ?_
      -- the parts are the same in the order in which they stand, and in that of the two runs
      have hparts (a b : Expr) : Expr.comprehension kind y.2.2.1 y.2.2.2
            (.mk asynchronous target b y.1 :: y.2.1) =
          .comprehension kind x.2.2.1 x.2.2.2 (.mk asynchronous target a x.1 :: x.2.1) ↔
            b = a ∧ y = x := by
        constructor
        · intro h
          injection h with _ he hv hcs
          injection hcs with hc hrest
          injection hc with _ _ hi ht
          exact ⟨hi, Prod.ext ht (Prod.ext hrest (Prod.ext he hv))⟩
        · rintro ⟨rfl, rfl⟩
          rfl
      rw [hparts]
      simpa [Expr.Becomes, Site.afterTargets, Clause.target, htarget, all, first, last] using
        and_congr hi hx

theorem parallel_redirectedAll (P : Site) : (es : List Expr) →
    Parallel names (redirectedAll this es) (redirectedAll that es)
      fun as bs => bs = as ↔ AllBecome (.unhidden this that names) P es as
  | [] => by
      rw [redirectedAll, redirectedAll]
      refine .pure ?_
      simp [AllBecome]
  | e :: es => by
      rw [redirectedAll, redirectedAll]
      refine (Expr.parallel_redirected P e).bind fun _ _ he =>
        (parallel_redirectedAll P es).map fun _ _ hes => ?_
      simpa [AllBecome] using and_congr he hes

theorem parallel_redirectedOption (P : Site) : (e : Option Expr) →
    Parallel names (redirectedOption this e) (redirectedOption that e)
      fun a b => b = a ↔ OptionBecomes (.unhidden this that names) P e a
  | none => by
      rw [redirectedOption, redirectedOption]
      refine .pure ?_
      simp [OptionBecomes]
  | some e => by
      rw [redirectedOption, redirectedOption]
      refine (Expr.parallel_redirected P e).map fun _ _ he => ?_
      simpa [OptionBecomes] using he

theorem parallel_redirectedLinks (P : Site) : (ls : List Link) →
    Parallel names (redirectedLinks this ls) (redirectedLinks that ls)
      fun as bs => bs = as ↔ LinksBecome (.unhidden this that names) P ls as
  | [] => by
      rw [redirectedLinks, redirectedLinks]
      refine .pure ?_
      simp [LinksBecome]
  | .mk op e :: ls => by
      rw [redirectedLinks, redirectedLinks]
      refine (Expr.parallel_redirected P e).bind fun _ _ he =>
        (parallel_redirectedLinks P ls).map fun _ _ hls => ?_
      simpa [LinksBecome] using and_congr he hls

theorem parallel_redirectedDefaults (P : Site) (pick : ParamKind → Bool) : (ps : List Param) →
    Parallel names (redirectedDefaults this pick ps) (redirectedDefaults that pick ps)
      (Forall₃ (fun p d d' => pick p.kind = true →
        (d' = d ↔ OptionBecomes (.unhidden this that names) P p.fallback d)) ps)
  | [] => by
      rw [redirectedDefaults, redirectedDefaults]
      exact .pure .nil
  | .mk kind name d :: ps => by
      rw [redirectedDefaults, redirectedDefaults]
      split
      · exact (parallel_redirectedOption P d).bind fun _ _ hd =>
          (parallel_redirectedDefaults P pick ps).map fun _ _ hds => .cons (fun _ => hd) hds
      · rename_i hkind
        refine (parallel_redirectedDefaults P pick ps).map fun _ _ hds => .cons ?_ hds
        exact fun hpick => absurd hpick hkind

theorem parallel_redirectedArguments (P : Site) : (as : List Argument) →
    Parallel names (redirectedArguments this as) (redirectedArguments that as)
      fun bs cs => cs = bs ↔ ArgumentsBecome (.unhidden this that names) P as bs
  | [] => by
      rw [redirectedArguments, redirectedArguments]
      refine .pure ?_
      simp [ArgumentsBecome]
  | .positional e :: as | .keyword _ e :: as | .spread e :: as => by
      rw [redirectedArguments, redirectedArguments]
      refine (Expr.parallel_redirected P e).bind fun _ _ he =>
        (parallel_redirectedArguments P as).map fun _ _ has => ?_
      simpa [ArgumentsBecome] using and_congr he has

theorem parallel_redirectedKeys (P : Site) : (is : List DictItem) →
    Parallel names (redirectedKeys this is) (redirectedKeys that is)
      (Forall₃ (fun i k k' => k.isSome = i.key.isSome ∧ k'.isSome = i.key.isSome ∧
        (k' = k ↔ OptionBecomes (.unhidden this that names) P i.key k)) is)
  | [] => by
      rw [redirectedKeys, redirectedKeys]
      exact .pure .nil
  | .entry k v :: is => by
      rw [redirectedKeys, redirectedKeys]
      refine (Expr.parallel_redirected P k).bind fun _ _ hk =>
        (parallel_redirectedKeys P is).map fun _ _ hks => .cons ⟨rfl, rfl, ?_⟩ hks
      simpa [DictItem.key, OptionBecomes] using hk
  | .spread e :: is => by
      rw [redirectedKeys, redirectedKeys]
      refine (parallel_redirectedKeys P is).map fun _ _ hks => .cons ⟨rfl, rfl, ?_⟩ hks
      simp [DictItem.key, OptionBecomes]

theorem parallel_redirectedValues (P : Site) : (is : List DictItem) →
    Parallel names (redirectedValues this is) (redirectedValues that is)
      (Forall₃ (fun i v v' => v' = v ↔ i.value.Becomes (.unhidden this that names) P v) is)
  | [] => by
      rw [redirectedValues, redirectedValues]
      exact .pure .nil
  | .entry _ v :: is | .spread v :: is => by
      rw [redirectedValues, redirectedValues]
      exact (Expr.parallel_redirected P v).bind fun _ _ hv =>
        (parallel_redirectedValues P is).map fun _ _ hvs => .cons hv hvs

theorem parallel_redirectedClauses (P : Site) : (cs : List Clause) →
    Parallel names (redirectedClauses this cs) (redirectedClauses that cs)
      fun as bs => bs = as ↔ ClausesBecome (.unhidden this that names) P cs as
  | [] => by
      rw [redirectedClauses, redirectedClauses]
      refine .pure ?_
      simp [ClausesBecome]
  | .mk asynchronous target iterable tests :: cs => by
      have htarget : target.EverywhereInTarget (Outcome.unhidden this that names).kept P :=
        everywhereInTarget (fun _ _ => trivial) P target
      rw [redirectedClauses, redirectedClauses]
      refine (Expr.parallel_redirected P iterable).bind fun _ _ hi =>
        (Parallel.bindNames target.names).bind fun _ _ _ =>
          (parallel_redirectedAll (P.afterTarget target) tests).bind fun _ _ ht =>
            (parallel_redirectedClauses (P.afterTarget target) cs).map fun _ _ hcs => ?_
      simpa [ClausesBecome, htarget, and_assoc] using and_congr hi (and_congr ht hcs)

end

end

/-- **Loops hide nothing but what is spelled like their names.** What an expression becomes inside
of loops is what it becomes outside of them, if and only if it reads no name from the data that a
loop binds, and what `this` stands for does not change where it reads it. -/
theorem Expr.redirect_eq_iff (this that : String) (names : List String) (e : Expr) :
    e.redirect that names = e.redirect this [] ↔
      e.Becomes (.unhidden this that names) (e.site []) (e.redirect this []) :=
  (Expr.parallel_redirected (e.site []) e _ _ _ (.outermost true [])).1

end Curly
