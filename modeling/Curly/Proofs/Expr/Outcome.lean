import Curly.Proofs.Expr.Redirect
import Mathlib.Data.List.Forall2

/-!
Outcomes and rules: whether an outcome holds of what redirection makes of an expression is decided,
name by name, by a rule that looks at the expression alone.

How the one depends on the other is left open by a connective, so that outcomes that a rule ensures,
outcomes that ensure a rule, and outcomes that are equivalent to a rule are dealt with at once.
-/

namespace Curly

open Redirect

/-- A connective that a conjunction inherits from its parts. -/
structure Connective (rel : Prop → Prop → Prop) : Prop where
  refl : ∀ p, rel p p
  and : ∀ {p q p' q'}, rel p p' → rel q q' → rel (p ∧ q) (p' ∧ q')

theorem Connective.iff : Connective Iff := ⟨Iff.refl, and_congr⟩

theorem Connective.implies : Connective fun p q => p → q := ⟨fun _ => id, And.imp⟩

theorem Connective.impliedBy : Connective fun p q => q → p := ⟨fun _ => id, And.imp⟩

/-- A rule decides on an outcome: for all that redirection may make of a name at a site. -/
structure Rule.Decides (rel : Prop → Prop → Prop) (this : String) (o : Outcome) (r : Rule) :
    Prop where
  this : ∀ P, rel (o.read P "this" (.name this)) (r.read P "this")
  taken : ∀ P id, id ≠ "this" → id ∈ P.taken → rel (o.read P id (.name id)) (r.read P id)
  assigned : ∀ P id, id ≠ "this" → id ∉ P.taken → id ∈ P.others →
    rel (o.read P id (.name id)) (r.read P id)
  free : ∀ P id, id ≠ "this" → id ∉ P.taken → rel (o.read P id (.resolve id)) (r.read P id)
  member : ∀ P, rel (o.member P) (r.member P)
  kept : o.kept = r.kept

section

variable {rel : Prop → Prop → Prop} {this : String} {o : Outcome} {r : Rule} {P : Site}

/-- The outcome for a name, from the scopes at its site. -/
theorem Rule.Decides.name (h : r.Decides rel this o) (id : String) {scopes : List NameScope}
    (hP : P.Fits scopes) :
    rel ((Expr.name id).Becomes o P ((Expr.name id).redirected this scopes).1)
      ((Expr.name id).Everywhere r P) := by
  rw [Expr.redirected_name, Expr.Becomes, Expr.Everywhere]
  by_cases hthis : id = "this"
  · subst hthis
    exact h.this P
  rw [if_neg hthis]
  have hbound : scopes.any (·.names.contains id) = true ↔ id ∈ namesOf scopes := by
    simp [namesOf]
  by_cases htaken : id ∈ P.taken
  · rw [if_pos (hbound.mpr (hP.taken htaken))]
    exact h.taken P id hthis htaken
  -- of other names the scopes hold those that were assigned before
  by_cases hscopes : id ∈ namesOf scopes
  · have hothers : id ∈ P.others :=
      (List.mem_append.mp (hP.known hscopes)).resolve_right htaken
    rw [if_pos (hbound.mpr hscopes)]
    exact h.assigned P id hthis htaken hothers
  · rw [if_neg fun hany => hscopes (hbound.mp hany)]
    exact h.free P id hthis htaken

/-- Parameters become others if their defaults do, each of them where it belongs. -/
theorem Connective.zipParams (C : Connective rel) {ps : List Param}
    {named others : List (Option Expr)}
    (hnamed : List.Forall₂ (fun (p : Param) d => p.kind = .keywordOnly →
      rel (OptionBecomes o P p.fallback d) (EverywhereInOption r P p.fallback)) ps named)
    (hothers : List.Forall₂ (fun (p : Param) d => p.kind ≠ .keywordOnly →
      rel (OptionBecomes o P p.fallback d) (EverywhereInOption r P p.fallback)) ps others) :
    rel (ParamsBecome o P ps (Redirect.zipParams ps named others)) (EverywhereInParams r P ps) := by
  induction hnamed generalizing others with
  | nil =>
      simpa [Redirect.zipParams, ParamsBecome, EverywhereInParams] using C.refl True
  | cons hn hns ih =>
      rename_i p n ps ns
      obtain ⟨kind, name, d⟩ := p
      cases hothers with
      | cons ho hos =>
          rename_i d' os
          -- each parameter takes its default from the list of its kind
          have hhead : rel (OptionBecomes o P d (if kind = .keywordOnly then n else d'))
              (EverywhereInOption r P d) := by
            split
            · rename_i hkind
              exact hn hkind
            · rename_i hkind
              exact ho hkind
          simpa [Redirect.zipParams, ParamsBecome, EverywhereInParams] using C.and hhead (ih hos)

/-- The value of a dictionary item. -/
def DictItem.value : DictItem → Expr
  | .entry _ v | .spread v => v

/-- The key of a dictionary item. -/
def DictItem.key : DictItem → Option Expr
  | .entry k _ => some k
  | .spread _ => none

/-- Dictionary items become others if their keys and their values do. -/
theorem Connective.zipItems (C : Connective rel) {items : List DictItem}
    {keys : List (Option Expr)} {values : List Expr}
    (hkeys : List.Forall₂ (fun (i : DictItem) k => k.isSome = i.key.isSome ∧
      rel (OptionBecomes o P i.key k) (EverywhereInOption r P i.key)) items keys)
    (hvalues : List.Forall₂ (fun (i : DictItem) v =>
      rel (i.value.Becomes o P v) (i.value.Everywhere r P)) items values) :
    rel (ItemsBecome o P items (Redirect.zipItems keys values)) (EverywhereInItems r P items) := by
  induction hkeys generalizing values with
  | nil => simpa [Redirect.zipItems, ItemsBecome, EverywhereInItems] using C.refl True
  | cons hk hks ih =>
      rename_i i k items keys
      obtain ⟨hsome, hk⟩ := hk
      cases hvalues with
      | cons hv hvs =>
          -- an item without a key is spread, and no key stands for it in the list of keys
          cases i with
          | entry key value =>
              cases k with
              | none => cases hsome
              | some k =>
                  have hkey : rel (key.Becomes o P k) (key.Everywhere r P) := by
                    simpa [DictItem.key, OptionBecomes, EverywhereInOption] using hk
                  simpa [Redirect.zipItems, ItemsBecome, EverywhereInItems, DictItem.value] using
                    C.and hkey (C.and hv (ih hvs))
          | spread value =>
              cases k with
              | some k => cases hsome
              | none =>
                  simpa [Redirect.zipItems, ItemsBecome, EverywhereInItems, DictItem.value] using
                    C.and hv (ih hvs)

mutual

/-- A rule decides what redirection makes of an expression at a site. The induction is on the
expression, and is about all scopes that fit, because they change on the way. -/
theorem Rule.Decides.leads (h : r.Decides rel this o) (C : Connective rel)
    (P : Site) : ∀ e : Expr, e.assigned ⊆ P.others →
    (e.redirected this).Leads P P fun f => rel (e.Becomes o P f) (e.Everywhere r P)
  | .name id, _ => by
      refine .ofAssigns (Expr.assigns_redirected this (.name id)) (List.nil_subset _) ?_
      exact fun scopes hP => h.name id hP
  | .literal v, _ => by
      rw [Expr.redirected]
      refine .pure ?_
      simpa [Expr.Becomes, Expr.Everywhere] using C.refl True
  | .unary op e, hids => by
      rw [Expr.redirected]
      refine (h.leads C P e hids).map fun e' he => ?_
      simpa [Expr.Becomes, Expr.Everywhere] using he
  | .binary op left right, hids => by
      obtain ⟨hleft, hright⟩ := List.append_subset.mp hids
      rw [Expr.redirected]
      refine (h.leads C P left hleft).bind fun left' hl =>
        (h.leads C P right hright).map fun right' hr => ?_
      simpa [Expr.Becomes, Expr.Everywhere] using C.and hl hr
  | .logical op es, hids => by
      rw [Expr.redirected]
      refine (h.leadsAll C P es hids).map fun es' hes => ?_
      simpa [Expr.Becomes, Expr.Everywhere] using hes
  | .compare e links, hids => by
      obtain ⟨hfirst, hlinks⟩ := List.append_subset.mp hids
      rw [Expr.redirected]
      refine (h.leads C P e hfirst).bind fun e' he =>
        (h.leadsLinks C P links hlinks).map fun links' hl => ?_
      simpa [Expr.Becomes, Expr.Everywhere] using C.and he hl
  | .ifElse test body orelse, hids => by
      obtain ⟨hids, horelse⟩ := List.append_subset.mp hids
      obtain ⟨htest, hbody⟩ := List.append_subset.mp hids
      rw [Expr.redirected]
      refine (h.leads C P test htest).bind fun test' ht =>
        (h.leads C P body hbody).bind fun body' hb =>
          (h.leads C P orelse horelse).map fun orelse' ho => ?_
      simpa [Expr.Becomes, Expr.Everywhere] using C.and ht (C.and hb ho)
  | .call function args, hids => by
      obtain ⟨hfunction, hargs⟩ := List.append_subset.mp hids
      rw [Expr.redirected]
      refine (h.leads C P function hfunction).bind fun function' hf =>
        (h.leadsArguments C P args hargs).map fun args' ha => ?_
      simpa [Expr.Becomes, Expr.Everywhere] using C.and hf ha
  | .attribute e name, hids => by
      rw [Expr.redirected]
      refine (h.leads C P e hids).map fun e' he => ?_
      simpa [Expr.Becomes, Expr.Everywhere, Expr.member, Expr.apply, Expr.str] using
        C.and (h.member P) he
  | .subscript e i, hids => by
      obtain ⟨hvalue, hindex⟩ := List.append_subset.mp hids
      rw [Expr.redirected]
      refine (h.leads C P e hvalue).bind fun e' he =>
        (h.leads C P i hindex).map fun i' hi => ?_
      simpa [Expr.Becomes, Expr.Everywhere] using C.and he hi
  | .slice lower upper step, hids => by
      obtain ⟨hids, hstep⟩ := List.append_subset.mp hids
      obtain ⟨hlower, hupper⟩ := List.append_subset.mp hids
      rw [Expr.redirected]
      refine (h.leadsOption C P lower hlower).bind fun lower' hl =>
        (h.leadsOption C P upper hupper).bind fun upper' hu =>
          (h.leadsOption C P step hstep).map fun step' hs => ?_
      simpa [Expr.Becomes, Expr.Everywhere] using C.and hl (C.and hu hs)
  | .display kind es, hids => by
      rw [Expr.redirected]
      refine (h.leadsAll C P es hids).map fun es' hes => ?_
      simpa [Expr.Becomes, Expr.Everywhere] using hes
  | .dict items, hids => by
      rw [Expr.redirected]
      refine (h.leadsKeys C P items hids).bind fun keys hk =>
        (h.leadsValues C P items hids).map fun values hv => ?_
      simpa [Expr.Becomes, Expr.Everywhere] using C.zipItems hk hv
  | .starred e, hids => by
      rw [Expr.redirected]
      refine (h.leads C P e hids).map fun e' he => ?_
      simpa [Expr.Becomes, Expr.Everywhere] using he
  | .assign target e, hids => by
      obtain ⟨htarget, hvalue⟩ := List.cons_subset.mp hids
      rw [Expr.redirected]
      refine (h.leads C P e hvalue).bind fun e' he scopes hP => ⟨?_, hP.addAssigned htarget⟩
      show rel ((Expr.assign target e).Becomes o P (.assign target e')) _
      simpa [Expr.Becomes, Expr.Everywhere] using he
  | .await e, hids => by
      rw [Expr.redirected]
      refine (h.leads C P e hids).map fun e' he => ?_
      simpa [Expr.Becomes, Expr.Everywhere] using he
  | .lambda ps body, hids => by
      have hbody : (body.redirected this).Leads (P.inLambda ps body) (P.inLambda ps body) _ :=
        h.leads C (P.inLambda ps body) body (List.subset_append_left _ _)
      rw [Expr.redirected]
      -- the defaults stand outside; those of parameters that can only be named come first
      refine (h.leadsDefaults C P (· == .keywordOnly) ps hids).bind fun named hn =>
        (h.leadsDefaults C P (· != .keywordOnly) ps hids).bind fun others ho => ?_
      refine .ofAssigns ((Expr.assigns_redirected this body).inFunction _ _) (List.nil_subset _) ?_
      intro scopes hP
      obtain ⟨hb, -⟩ := hbody _ (hP.inLambda ps body)
      have hps := C.zipParams (hn.imp fun p d hpd hkind => hpd (by simpa using hkind))
        (ho.imp fun p d hpd hkind => hpd (by simpa using hkind))
      show rel ((Expr.lambda ps body).Becomes o P (.lambda (zipParams ps named others) _)) _
      simpa [Expr.Becomes, Expr.Everywhere] using C.and hps hb
  | .comprehension kind e v [], _ => by
      rw [Expr.redirected]
      refine .pure ?_
      simpa [Expr.Becomes, Expr.Everywhere, h.kept] using C.refl _
  | .comprehension kind e v (.mk asynchronous target iterable tests :: rest), hids => by
      let all : List Clause := .mk asynchronous target iterable tests :: rest
      refine .ofAssigns (Expr.assigns_redirected this (.comprehension kind e v all)) hids ?_
      intro scopes hP
      obtain ⟨hids, hclauses⟩ := List.append_subset.mp hids
      obtain ⟨he, hv⟩ := List.append_subset.mp hids
      obtain ⟨hclause, hrest⟩ := List.append_subset.mp hclauses
      obtain ⟨hclause, htests⟩ := List.append_subset.mp hclause
      obtain ⟨-, hiterable⟩ := List.append_subset.mp hclause
      -- tests and further clauses stand behind some of the targets, the element behind all of them
      let first : Site := (P.inComprehension all).afterTarget target
      let last : Site := first.afterTargets rest
      have hlast : last.others = P.others := Site.others_afterTargets first rest
      have hinside : (Redirect.inside this target tests rest e v).Leads (P.inComprehension all) last
          fun x => rel
            (AllBecome o first tests x.1 ∧ ClausesBecome o first rest x.2.1 ∧
              e.Becomes o last x.2.2.1 ∧ OptionBecomes o last v x.2.2.2)
            (EverywhereInAll r first tests ∧ EverywhereInClauses r first rest ∧
              e.Everywhere r last ∧ EverywhereInOption r last v) :=
        (Leads.bindNames target).bind fun _ _ =>
          (h.leadsAll C first tests htests).bind fun tests' ht =>
            (h.leadsClauses C first rest hrest).bind fun rest' hr =>
              (h.leads C last e (hlast ▸ he)).bind fun e' he' =>
                (h.leadsOption C last v (hlast ▸ hv)).map fun v' hv' =>
                  C.and ht (C.and hr (C.and he' hv'))
      obtain ⟨hi, hP⟩ := h.leads C P iterable hiterable scopes hP
      obtain ⟨hx, -⟩ := hinside _ (hP.inComprehension all)
      rw [Expr.fst_redirected_comprehension]
      simpa [Expr.Becomes, Expr.Everywhere, Site.afterTargets, Clause.target, h.kept, all, first,
        last] using C.and hi (C.and (C.refl _) hx)

theorem Rule.Decides.leadsAll (h : r.Decides rel this o) (C : Connective rel)
    (P : Site) : ∀ es : List Expr, assignedOfExprs es ⊆ P.others →
    (redirectedAll this es).Leads P P fun fs => rel (AllBecome o P es fs) (EverywhereInAll r P es)
  | [], _ => by
      refine .pure ?_
      simpa [AllBecome, EverywhereInAll] using C.refl True
  | e :: es, hids => by
      obtain ⟨hfirst, hrest⟩ := List.append_subset.mp hids
      rw [redirectedAll]
      refine (h.leads C P e hfirst).bind fun e' he =>
        (h.leadsAll C P es hrest).map fun es' hes => ?_
      simpa [AllBecome, EverywhereInAll] using C.and he hes

theorem Rule.Decides.leadsOption (h : r.Decides rel this o) (C : Connective rel)
    (P : Site) : ∀ e : Option Expr, assignedOfOption e ⊆ P.others →
    (redirectedOption this e).Leads P P fun f =>
      rel (OptionBecomes o P e f) (EverywhereInOption r P e)
  | none, _ => by
      refine .pure ?_
      simpa [OptionBecomes, EverywhereInOption] using C.refl True
  | some e, hids => by
      rw [redirectedOption]
      refine (h.leads C P e hids).map fun e' he => ?_
      simpa [OptionBecomes, EverywhereInOption] using he

theorem Rule.Decides.leadsLinks (h : r.Decides rel this o) (C : Connective rel)
    (P : Site) : ∀ ls : List Link, assignedOfLinks ls ⊆ P.others →
    (redirectedLinks this ls).Leads P P fun fs =>
      rel (LinksBecome o P ls fs) (EverywhereInLinks r P ls)
  | [], _ => by
      refine .pure ?_
      simpa [LinksBecome, EverywhereInLinks] using C.refl True
  | .mk op e :: ls, hids => by
      obtain ⟨hfirst, hrest⟩ := List.append_subset.mp hids
      rw [redirectedLinks]
      refine (h.leads C P e hfirst).bind fun e' he =>
        (h.leadsLinks C P ls hrest).map fun ls' hls => ?_
      simpa [LinksBecome, EverywhereInLinks] using C.and he hls

/-- Of the defaults those of some kinds become others. -/
theorem Rule.Decides.leadsDefaults (h : r.Decides rel this o) (C : Connective rel)
    (P : Site) (pick : ParamKind → Bool) :
    ∀ ps : List Param, assignedOfParams ps ⊆ P.others →
      (redirectedDefaults this pick ps).Leads P P fun ds =>
        List.Forall₂ (fun (p : Param) d => pick p.kind = true →
          rel (OptionBecomes o P p.fallback d) (EverywhereInOption r P p.fallback)) ps ds
  | [], _ => .pure .nil
  | .mk kind name d :: ps, hids => by
      obtain ⟨hfirst, hrest⟩ := List.append_subset.mp hids
      rw [redirectedDefaults]
      split
      · refine (h.leadsOption C P d hfirst).bind fun d' hd =>
          (h.leadsDefaults C P pick ps hrest).map ?_
        exact fun ds hds => .cons (fun _ => hd) hds
      · -- A default of another kind is left to the other passage.
        rename_i hkind
        refine (h.leadsDefaults C P pick ps hrest).map fun ds hds => .cons ?_ hds
        exact fun hpick => absurd hpick hkind

theorem Rule.Decides.leadsArguments (h : r.Decides rel this o) (C : Connective rel)
    (P : Site) :
    ∀ as : List Argument, assignedOfArguments as ⊆ P.others →
      (redirectedArguments this as).Leads P P fun fs =>
        rel (ArgumentsBecome o P as fs) (EverywhereInArguments r P as)
  | [], _ => by
      refine .pure ?_
      simpa [ArgumentsBecome, EverywhereInArguments] using C.refl True
  | .positional e :: as, hids => by
      obtain ⟨hfirst, hrest⟩ := List.append_subset.mp hids
      rw [redirectedArguments]
      refine (h.leads C P e hfirst).bind fun e' he =>
        (h.leadsArguments C P as hrest).map fun as' has => ?_
      simpa [ArgumentsBecome, EverywhereInArguments] using C.and he has
  | .keyword name e :: as, hids => by
      obtain ⟨hfirst, hrest⟩ := List.append_subset.mp hids
      rw [redirectedArguments]
      refine (h.leads C P e hfirst).bind fun e' he =>
        (h.leadsArguments C P as hrest).map fun as' has => ?_
      simpa [ArgumentsBecome, EverywhereInArguments] using C.and he has
  | .spread e :: as, hids => by
      obtain ⟨hfirst, hrest⟩ := List.append_subset.mp hids
      rw [redirectedArguments]
      refine (h.leads C P e hfirst).bind fun e' he =>
        (h.leadsArguments C P as hrest).map fun as' has => ?_
      simpa [ArgumentsBecome, EverywhereInArguments] using C.and he has

theorem Rule.Decides.leadsKeys (h : r.Decides rel this o) (C : Connective rel)
    (P : Site) :
    ∀ is : List DictItem, assignedOfItems is ⊆ P.others →
      (redirectedKeys this is).Leads P P fun ks =>
        List.Forall₂ (fun (i : DictItem) k => k.isSome = i.key.isSome ∧
          rel (OptionBecomes o P i.key k) (EverywhereInOption r P i.key)) is ks
  | [], _ => .pure .nil
  | .entry k v :: is, hids => by
      obtain ⟨hfirst, hrest⟩ := List.append_subset.mp hids
      obtain ⟨hkey, -⟩ := List.append_subset.mp hfirst
      rw [redirectedKeys]
      refine (h.leads C P k hkey).bind fun k' hk => (h.leadsKeys C P is hrest).map fun ks hks => ?_
      refine .cons ⟨rfl, ?_⟩ hks
      simpa [DictItem.key, OptionBecomes, EverywhereInOption] using hk
  | .spread e :: is, hids => by
      obtain ⟨-, hrest⟩ := List.append_subset.mp hids
      rw [redirectedKeys]
      refine (h.leadsKeys C P is hrest).map fun ks hks => .cons ⟨rfl, ?_⟩ hks
      simpa [DictItem.key, OptionBecomes, EverywhereInOption] using C.refl True

theorem Rule.Decides.leadsValues (h : r.Decides rel this o) (C : Connective rel)
    (P : Site) :
    ∀ is : List DictItem, assignedOfItems is ⊆ P.others →
      (redirectedValues this is).Leads P P fun vs =>
        List.Forall₂ (fun (i : DictItem) v =>
          rel (i.value.Becomes o P v) (i.value.Everywhere r P)) is vs
  | [], _ => .pure .nil
  | .entry k v :: is, hids => by
      obtain ⟨hfirst, hrest⟩ := List.append_subset.mp hids
      obtain ⟨-, hvalue⟩ := List.append_subset.mp hfirst
      rw [redirectedValues]
      exact (h.leads C P v hvalue).bind fun v' hv =>
        (h.leadsValues C P is hrest).map fun vs hvs => .cons hv hvs
  | .spread e :: is, hids => by
      obtain ⟨hvalue, hrest⟩ := List.append_subset.mp hids
      rw [redirectedValues]
      exact (h.leads C P e hvalue).bind fun v' hv =>
        (h.leadsValues C P is hrest).map fun vs hvs => .cons hv hvs

/-- The clauses after the first lead behind all of their targets. -/
theorem Rule.Decides.leadsClauses (h : r.Decides rel this o) (C : Connective rel)
    (P : Site) :
    ∀ cs : List Clause, assignedOfClauses cs ⊆ P.others →
      (redirectedClauses this cs).Leads P (P.afterTargets cs) fun fs =>
        rel (ClausesBecome o P cs fs) (EverywhereInClauses r P cs)
  | [], _ => by
      refine .pure ?_
      simpa [ClausesBecome, EverywhereInClauses] using C.refl True
  | .mk asynchronous target iterable tests :: cs, hids => by
      obtain ⟨hclause, hrest⟩ := List.append_subset.mp hids
      obtain ⟨hclause, htests⟩ := List.append_subset.mp hclause
      obtain ⟨-, hiterable⟩ := List.append_subset.mp hclause
      rw [redirectedClauses]
      refine (h.leads C P iterable hiterable).bind fun iterable' hi =>
        (Leads.bindNames target).bind fun _ _ =>
          (h.leadsAll C (P.afterTarget target) tests htests).bind fun tests' ht =>
            (h.leadsClauses C (P.afterTarget target) cs hrest).map fun cs' hcs => ?_
      simpa [ClausesBecome, EverywhereInClauses, h.kept] using
        C.and hi (C.and (C.refl _) (C.and ht hcs))

end

/-- An expression as a whole: nothing around it but loops. -/
theorem Rule.Decides.redirect (h : r.Decides rel this o) (C : Connective rel)
    (loopNames : List String) (e : Expr) :
    rel (e.Becomes o (e.site loopNames) (e.redirect this loopNames))
      (e.Everywhere r (e.site loopNames)) := by
  have hfits : (e.site loopNames).Fits [⟨true, loopNames⟩] := by
    refine ⟨List.cons_ne_nil _ _, ?_, ?_⟩
    · simp [Expr.site, namesOf]
    · simp [Expr.site, namesOf]
  have hids : e.assigned ⊆ (e.site loopNames).others := List.subset_append_left _ _
  exact (h.leads C (e.site loopNames) e hids _ hfits).1

end

end Curly
