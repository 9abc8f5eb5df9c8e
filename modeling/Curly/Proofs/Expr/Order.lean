import Curly.Proofs.Eval.Oblivious
import Curly.Proofs.Expr.Redirect
import Mathlib.Data.Set.Insert

/-!
The order of evaluation and the order of redirection. Redirection takes an assigned name for bound
from where it meets the assignment, and so what it comes to later stays. Its way through an
expression is the order of evaluation, but for a few places:

- all keys of a dictionary come before all values;
- defaults of parameters that can only be named come before those of others;
- the parts of a comprehension are met once, while they are evaluated again for every item, and
  those of a generator at any time later;
- the targets of comprehensions are not met at all.

A moment knows both orders: the names that were assigned before, and those among them that
redirection has met.
-/

namespace Curly

open Redirect

/-! ## Moments -/

/-- A moment in the evaluation of the function that an expression stands in. -/
structure Moment where
  /-- The names that the function may have assigned before. -/
  before : Set String
  /-- Those of them whose assignments redirection has met before, too. -/
  met : Set String
  /-- The names that the function assigns at any time. -/
  ever : Set String
  /-- The names that redirection takes for bound. -/
  known : Set String

namespace Moment

/-- The moment behind the evaluation of what assigns some names. -/
def behind (M : Moment) (assigned : List String) : Moment :=
  { M with before := {id | id ∈ assigned} ∪ M.before }

/-- The moment at which redirection has met some assignments. -/
def knowing (M : Moment) (names : List String) : Moment :=
  { M with known := {id | id ∈ names} ∪ M.known }

/-- The moment behind what assigns some names, where redirection has met assignments of some. -/
def after (M : Moment) (assigned met : List String) : Moment :=
  { (M.behind assigned).knowing met with met := {id | id ∈ met} ∪ M.met }

/-- The first moment in a lambda, which is a function of its own. -/
def inLambda (M : Moment) (ps : List Param) (body : Expr) : Moment :=
  ⟨∅, ∅, {id | id ∈ body.assigned}, {id | id ∈ paramNamesOfParams ps} ∪ M.known⟩

/-- The first moment in a comprehension that assigns some names. Each of its parts may be evaluated
behind all of the others, and those of a generator behind whatever the function assigns. -/
def inComprehension (M : Moment) : ComprehensionKind → List String → Moment
  | .generator, _ => { M with before := M.ever ∪ M.before }
  | _, assigned => M.behind assigned

@[simp]
theorem known_knowing (M : Moment) (names : List String) :
    (M.knowing names).known = {id | id ∈ names} ∪ M.known := rfl

@[simp]
theorem known_after (M : Moment) (assigned met : List String) :
    (M.after assigned met).known = {id | id ∈ met} ∪ M.known := rfl

end Moment

/-- A name that is read at a moment, and what redirection makes of it. -/
structure Read where
  moment : Moment
  name : String
  result : Expr

namespace Read

/-- Whether the name may have been assigned before, in the same function. -/
def IsLater (r : Read) : Prop := r.name ∈ r.moment.before

/-- Whether redirection takes the name for bound. -/
def IsKnown (r : Read) : Prop := r.name ∈ r.moment.known

/-- Whether the name stays as it is. -/
def Stays (r : Read) : Prop := r.result = .name r.name

/-- Whether a read becomes what redirection makes of it. A name that is known stays, and it is known
behind every assignment that redirection has met. -/
structure IsRedirected (this : String) (r : Read) : Prop where
  this : r.name = "this" → r.result = .name this
  known : r.name ≠ "this" → r.IsKnown → r.Stays
  unknown : r.name ≠ "this" → ¬r.IsKnown → r.result = .resolve r.name
  met : r.name ∈ r.moment.met → r.IsKnown

end Read

/-! ## Redirection in the order of evaluation -/

mutual

/-- At a moment an expression turns into another one. Redirection meets the assignments of some
names, the last one first, and some reads. -/
inductive Expr.Turns : Moment → Expr → Expr → List String → List Read → Prop
  | name {id : String} : Expr.Turns M (.name id) f [] [⟨M, id, f⟩]
  | literal : Expr.Turns M (.literal v) (.literal v) [] []
  | unary (h : Expr.Turns M e e' a rs) : Expr.Turns M (.unary op e) (.unary op e') a rs
  | binary (hleft : Expr.Turns M left left' a rs)
      (hright : Expr.Turns (M.after left.assigned a) right right' b rs') :
      Expr.Turns M (.binary op left right) (.binary op left' right') (b ++ a) (rs ++ rs')
  | logical (h : AllTurn M es es' a rs) : Expr.Turns M (.logical op es) (.logical op es') a rs
  | compare (he : Expr.Turns M e e' a rs) (hlinks : LinksTurn (M.after e.assigned a) ls ls' b rs') :
      Expr.Turns M (.compare e ls) (.compare e' ls') (b ++ a) (rs ++ rs')
  /-- One of two branches is evaluated, and redirection goes through both. -/
  | ifElse (ht : Expr.Turns M t t' a rs)
      (hbody : Expr.Turns (M.after t.assigned a) body body' b rs')
      (horelse : Expr.Turns ((M.after t.assigned a).knowing b) orelse orelse' c rs'') :
      Expr.Turns M (.ifElse t body orelse) (.ifElse t' body' orelse') (c ++ b ++ a)
        (rs ++ (rs' ++ rs''))
  /-- Defaults of parameters that can only be named are evaluated behind those of others, and
  redirected before. -/
  | lambda
      (hnamed : DefaultsTurn (· == .keywordOnly)
        (M.behind (assignedOfParams (ps.filter (·.kind != .keywordOnly)))) ps named a rs)
      (hothers : DefaultsTurn (· != .keywordOnly) (M.knowing a) ps others b rs')
      (hbody : Expr.Turns ((M.knowing (b ++ a)).inLambda ps body) body body' c rs'') :
      Expr.Turns M (.lambda ps body) (.lambda (zipParams ps named others) body') (b ++ a)
        (rs ++ rs' ++ rs'')
  | call (hf : Expr.Turns M f f' a rs)
      (hargs : ArgumentsTurn (M.after f.assigned a) args args' b rs') :
      Expr.Turns M (.call f args) (.call f' args') (b ++ a) (rs ++ rs')
  | attribute (h : Expr.Turns M e e' a rs) :
      Expr.Turns M (.attribute e member) (.member e' member) a rs
  | subscript (he : Expr.Turns M e e' a rs) (hi : Expr.Turns (M.after e.assigned a) i i' b rs') :
      Expr.Turns M (.subscript e i) (.subscript e' i') (b ++ a) (rs ++ rs')
  | slice (hlower : OptionTurns M lower lower' a rs)
      (hupper : OptionTurns (M.after (assignedOfOption lower) a) upper upper' b rs')
      (hstep : OptionTurns ((M.after (assignedOfOption lower) a).after (assignedOfOption upper) b)
        step step' c rs'') :
      Expr.Turns M (.slice lower upper step) (.slice lower' upper' step') (c ++ b ++ a)
        (rs ++ (rs' ++ rs''))
  | display (h : AllTurn M es es' a rs) : Expr.Turns M (.display kind es) (.display kind es') a rs
  /-- Redirection has met all keys before the first value. -/
  | dict (h : ItemsTurn M (M.knowing a) items items' a b rs) :
      Expr.Turns M (.dict items) (.dict items') (b ++ a) rs
  | starred (h : Expr.Turns M e e' a rs) : Expr.Turns M (.starred e) (.starred e') a rs
  | bare : Expr.Turns M (.comprehension kind e v []) (.comprehension kind e v []) [] []
  /-- Only the first iterable is evaluated once. -/
  | comprehension (hiterable : Expr.Turns M iterable iterable' a rs₁)
      (hN : N = ((M.after iterable.assigned a).inComprehension kind (Expr.comprehension kind e v
        (.mk asynchronous target iterable tests :: rest)).assigned).knowing target.names)
      (htests : AllTurn N tests tests' b rs₂)
      (hrest : ClausesTurn (N.after (assignedOfExprs tests) b) rest rest' c rs₃)
      (hO : O = ((N.after (assignedOfExprs tests) b).after (assignedOfClauses rest) c).knowing
        (targetNames rest))
      (he : Expr.Turns O e e' d rs₄) (hv : OptionTurns (O.after e.assigned d) v v' g rs₅) :
      Expr.Turns M (.comprehension kind e v (.mk asynchronous target iterable tests :: rest))
        (.comprehension kind e' v' (.mk asynchronous target iterable' tests' :: rest'))
        (g ++ d ++ c ++ b ++ a) (rs₁ ++ rs₂ ++ rs₃ ++ rs₄ ++ rs₅)
  | assign (h : Expr.Turns M e e' a rs) :
      Expr.Turns M (.assign target e) (.assign target e') (target :: a) rs
  | await (h : Expr.Turns M e e' a rs) : Expr.Turns M (.await e) (.await e') a rs

/-- Expressions turn into others, each behind the ones before. -/
inductive AllTurn : Moment → List Expr → List Expr → List String → List Read → Prop
  | nil : AllTurn M [] [] [] []
  | cons (he : Expr.Turns M e e' a rs) (hes : AllTurn (M.after e.assigned a) es es' b rs') :
      AllTurn M (e :: es) (e' :: es') (b ++ a) (rs ++ rs')

/-- An expression that may be missing turns into another one. -/
inductive OptionTurns : Moment → Option Expr → Option Expr → List String → List Read → Prop
  | none : OptionTurns M none none [] []
  | some (h : Expr.Turns M e e' a rs) : OptionTurns M (some e) (some e') a rs

/-- The operands of comparisons turn into others. -/
inductive LinksTurn : Moment → List Link → List Link → List String → List Read → Prop
  | nil : LinksTurn M [] [] [] []
  | cons (he : Expr.Turns M e e' a rs) (hls : LinksTurn (M.after e.assigned a) ls ls' b rs') :
      LinksTurn M (.mk op e :: ls) (.mk op e' :: ls') (b ++ a) (rs ++ rs')

/-- The defaults of the parameters of some kinds turn into others. -/
inductive DefaultsTurn : (ParamKind → Bool) → Moment → List Param → List (Option Expr) →
    List String → List Read → Prop
  | nil : DefaultsTurn pick M [] [] [] []
  | picked (hpick : pick kind = true) (hd : OptionTurns M d d' a rs)
      (hps : DefaultsTurn pick (M.after (assignedOfOption d) a) ps ds b rs') :
      DefaultsTurn pick M (.mk kind param d :: ps) (d' :: ds) (b ++ a) (rs ++ rs')
  | left (hpick : pick kind = false) (hps : DefaultsTurn pick M ps ds a rs) :
      DefaultsTurn pick M (.mk kind param d :: ps) (none :: ds) a rs

/-- Arguments turn into others. -/
inductive ArgumentsTurn : Moment → List Argument → List Argument → List String → List Read → Prop
  | nil : ArgumentsTurn M [] [] [] []
  | positional (he : Expr.Turns M e e' a rs)
      (hargs : ArgumentsTurn (M.after e.assigned a) args args' b rs') :
      ArgumentsTurn M (.positional e :: args) (.positional e' :: args') (b ++ a) (rs ++ rs')
  | keyword (he : Expr.Turns M e e' a rs)
      (hargs : ArgumentsTurn (M.after e.assigned a) args args' b rs') :
      ArgumentsTurn M (.keyword param e :: args) (.keyword param e' :: args') (b ++ a) (rs ++ rs')
  | spread (he : Expr.Turns M e e' a rs)
      (hargs : ArgumentsTurn (M.after e.assigned a) args args' b rs') :
      ArgumentsTurn M (.spread e :: args) (.spread e' :: args') (b ++ a) (rs ++ rs')

/-- Dictionary items turn into others. Keys and values have their moments each, and are evaluated in
turn; redirection meets what values assign only behind the keys. -/
inductive ItemsTurn : Moment → Moment → List DictItem → List DictItem → List String → List String →
    List Read → Prop
  | nil : ItemsTurn K V [] [] [] [] []
  | entry (hk : Expr.Turns K k k' a rs) (hv : Expr.Turns (V.after k.assigned a) v v' b rs')
      (hitems : ItemsTurn ((K.after k.assigned a).behind v.assigned)
        ((V.after k.assigned a).after v.assigned b) items items' c d rs'') :
      ItemsTurn K V (.entry k v :: items) (.entry k' v' :: items') (c ++ a) (d ++ b)
        (rs ++ rs' ++ rs'')
  | spread (hv : Expr.Turns V v v' b rs)
      (hitems : ItemsTurn (K.behind v.assigned) (V.after v.assigned b) items items' c d rs') :
      ItemsTurn K V (.spread v :: items) (.spread v' :: items') c (d ++ b) (rs ++ rs')

/-- The clauses of a comprehension after its first turn into others. Targets stay. -/
inductive ClausesTurn : Moment → List Clause → List Clause → List String → List Read → Prop
  | nil : ClausesTurn M [] [] [] []
  | cons (hiterable : Expr.Turns M iterable iterable' a rs)
      (hN : N = (M.after iterable.assigned a).knowing target.names)
      (htests : AllTurn N tests tests' b rs')
      (hcs : ClausesTurn (N.after (assignedOfExprs tests) b) cs cs' c rs'') :
      ClausesTurn M (.mk asynchronous target iterable tests :: cs)
        (.mk asynchronous target iterable' tests' :: cs') (c ++ b ++ a) (rs ++ rs' ++ rs'')

end

/-! ## Moments and scopes -/

/-- The names that scopes bind, as a set. -/
def Redirect.boundIn (scopes : List NameScope) : Set String := {id | id ∈ namesOf scopes}

theorem exists_ofFunction_addAssigned {id : String} {scopes : List NameScope}
    (h : ∃ s ∈ scopes, s.ofFunction = true) : ∃ s ∈ addAssigned id scopes, s.ofFunction = true := by
  induction scopes with
  | nil => simp at h
  | cons s ss ih =>
      rw [addAssigned]
      split
      · rename_i hs
        exact ⟨_, List.mem_cons_self, hs⟩
      · rename_i hs
        obtain ⟨t, ht, hf⟩ := ih (by simpa [hs] using h)
        exact ⟨t, List.mem_cons_of_mem _ ht, hf⟩

theorem mem_namesOf_addAssigned {x id : String} {scopes : List NameScope}
    (h : ∃ s ∈ scopes, s.ofFunction = true) :
    x ∈ namesOf (addAssigned id scopes) ↔ x = id ∨ x ∈ namesOf scopes := by
  constructor
  · intro hx
    exact List.mem_cons.1 (namesOf_addAssigned_subset id scopes hx)
  · rintro (rfl | hx)
    · -- The name goes to the innermost function; the scopes inside of that are of comprehensions.
      induction scopes with
      | nil => simp at h
      | cons s ss ih =>
          rw [addAssigned]
          split
          · simp [namesOf]
          · rename_i hs
            have hss : ∃ s ∈ ss, s.ofFunction = true := by simpa [hs] using h
            rw [namesOf, List.flatMap_cons]
            exact List.mem_append_right _ (ih hss)
    · exact subset_namesOf_addAssigned id scopes hx

/-- Around every place there is a function, whose scope takes up all that is assigned. -/
theorem Redirect.boundIn_addAll {scopes : List NameScope}
    (h : ∃ s ∈ scopes, s.ofFunction = true) (l : List String) :
    (∃ s ∈ addAll l scopes, s.ofFunction = true) ∧
      boundIn (addAll l scopes) = {id | id ∈ l} ∪ boundIn scopes := by
  induction l with
  | nil => simpa [addAll] using h
  | cons id l ih =>
      obtain ⟨hfunction, hbound⟩ := ih
      refine ⟨exists_ofFunction_addAssigned hfunction, ?_⟩
      ext x
      have hx : x ∈ boundIn (addAll l scopes) ↔ x ∈ l ∨ x ∈ boundIn scopes := by
        rw [hbound]
        rfl
      show x ∈ namesOf (addAssigned id (addAll l scopes)) ↔ _
      rw [mem_namesOf_addAssigned hfunction]
      show x = id ∨ x ∈ boundIn (addAll l scopes) ↔ _
      rw [hx]
      simp [or_assoc]

/-- Whether redirection has some scopes at a moment. -/
structure Moment.Fits (M : Moment) (scopes : List NameScope) : Prop where
  function : ∃ s ∈ scopes, s.ofFunction = true
  known : M.known = boundIn scopes
  met : M.met ⊆ M.known

namespace Moment.Fits

variable {M : Moment} {scopes : List NameScope} {assigned l : List String}

theorem behind (h : M.Fits scopes) (assigned : List String) : (M.behind assigned).Fits scopes :=
  ⟨h.function, h.known, h.met⟩

theorem knowing (h : M.Fits scopes) (l : List String) :
    (M.knowing l).Fits (addAll l scopes) where
  function := (boundIn_addAll h.function l).1
  known := by
    rw [(boundIn_addAll h.function l).2, ← h.known]
    rfl
  met := h.met.trans Set.subset_union_right

theorem after (h : M.Fits scopes) (assigned l : List String) :
    (M.after assigned l).Fits (addAll l scopes) where
  function := (h.knowing l).function
  known := (h.knowing l).known
  met := Set.union_subset_union_right _ h.met

/-- What redirection has met already is assigned. -/
theorem after_of_subset (h : M.Fits scopes) (hl : {id | id ∈ l} ⊆ M.known) :
    (M.after assigned l).Fits scopes where
  function := h.function
  known := by
    rw [← h.known]
    exact Set.union_eq_self_of_subset_left hl
  met := Set.union_subset_union_right _ h.met

theorem inLambda (h : M.Fits scopes) (ps : List Param) (body : Expr) :
    (M.inLambda ps body).Fits (⟨true, paramNamesOfParams ps⟩ :: scopes) where
  function := ⟨_, List.mem_cons_self, rfl⟩
  known := by
    ext x
    simp [Moment.inLambda, boundIn, namesOf, h.known]
  met := Set.empty_subset _

theorem inComprehension (h : M.Fits scopes) (kind : ComprehensionKind) (assigned : List String) :
    (M.inComprehension kind assigned).Fits (⟨false, []⟩ :: scopes) := by
  have hfunction : ∃ s ∈ (⟨false, []⟩ : NameScope) :: scopes, s.ofFunction = true := by
    obtain ⟨s, hs, hf⟩ := h.function
    exact ⟨s, List.mem_cons_of_mem _ hs, hf⟩
  have hknown : M.known = boundIn (⟨false, []⟩ :: scopes) := h.known
  cases kind <;> exact ⟨hfunction, hknown, h.met⟩

/-- A target is bound in the innermost scope. -/
theorem bindNames {ofFunction : Bool} {names : List String}
    (h : M.Fits (⟨ofFunction, names⟩ :: scopes)) (names' : List String) :
    (M.knowing names').Fits (⟨ofFunction, names' ++ names⟩ :: scopes) where
  function := by simpa using h.function
  known := by
    ext x
    simp [Moment.knowing, boundIn, namesOf, h.known]
  met := h.met.trans Set.subset_union_right

/-- Redirection goes on, and knows no fewer names. -/
theorem of_assigns {m : Redirect α} {ids : List String} (h : M.Fits scopes) (hm : Assigns ids m) :
    M.known ⊆ boundIn (m scopes).2 ∧
      { M with known := boundIn (m scopes).2 }.Fits (m scopes).2 := by
  obtain ⟨l, -, hscopes⟩ := hm scopes
  obtain ⟨hfunction, hbound⟩ := boundIn_addAll h.function l
  have hknown : M.known ⊆ boundIn (m scopes).2 := by
    rw [hscopes, hbound, h.known]
    exact Set.subset_union_right
  refine ⟨hknown, ?_, rfl, h.met.trans hknown⟩
  rw [hscopes]
  exact hfunction

theorem eq_knowing (h : M.Fits scopes) {m : Redirect α}
    (hscopes : (m scopes).2 = addAll l scopes) :
    { M with known := boundIn (m scopes).2 } = M.knowing l := by
  rw [hscopes, (boundIn_addAll h.function l).2, ← h.known]
  rfl

/-- What redirection makes of a name at a moment. -/
theorem isRedirected (h : M.Fits scopes) (this id : String) :
    (⟨M, id, ((Expr.name id).redirected this scopes).1⟩ : Read).IsRedirected this := by
  have hbound : scopes.any (·.names.contains id) = true ↔ id ∈ M.known := by
    rw [h.known]
    simp [boundIn, namesOf]
  rw [Expr.redirected_name]
  refine ⟨fun hthis => if_pos hthis, fun hthis hid => ?_, fun hthis hid => ?_, fun hid => h.met hid⟩
  · show (if id = "this" then _ else _) = _
    rw [if_neg hthis, if_pos (hbound.2 hid)]
  · show (if id = "this" then _ else _) = _
    rw [if_neg hthis, if_neg fun hany => hid (hbound.1 hany)]

end Moment.Fits

/-! ## Redirection step by step -/

/-- From the scopes of a moment redirection comes to a result, and to assignments and reads that
belong to it. -/
def Redirect.Tracks (this : String) (M : Moment) (m : Redirect α)
    (T : α → List String → List Read → Prop) : Prop :=
  ∀ scopes, M.Fits scopes → ∃ a rs, T (m scopes).1 a rs ∧ (∀ r ∈ rs, r.IsRedirected this) ∧
    (m scopes).2 = addAll a scopes

namespace Redirect.Tracks

variable {this : String} {M : Moment} {m : Redirect α} {T : α → List String → List Read → Prop}
  {U : β → List String → List Read → Prop}

theorem pure {x : α} (h : T x [] []) : Tracks this M (pure x) T :=
  fun _ _ => ⟨[], [], h, nofun, rfl⟩

theorem map {f : α → β} (hm : Tracks this M m T) (hf : ∀ x a rs, T x a rs → U (f x) a rs) :
    Tracks this M (m >>= fun x => Pure.pure (f x)) U := by
  intro scopes hM
  obtain ⟨a, rs, hT, hrs, hscopes⟩ := hm scopes hM
  exact ⟨a, rs, hf _ a rs hT, hrs, hscopes⟩

/-- What follows is redirected at another moment, which fits what was met. -/
theorem bindAt {k : α → Redirect β} (hm : Tracks this M m T) (N : List String → Moment)
    (hN : ∀ a scopes, M.Fits scopes → (N a).Fits (addAll a scopes))
    (hk : ∀ x a rs, T x a rs →
      Tracks this (N a) (k x) fun y b rs' => U y (b ++ a) (rs ++ rs')) :
    Tracks this M (m >>= k) U := by
  intro scopes hM
  obtain ⟨a, rs, hT, hrs, hscopes⟩ := hm scopes hM
  have hfits := hN a scopes hM
  rw [← hscopes] at hfits
  obtain ⟨b, rs', hU, hrs', hscopes'⟩ := hk _ a rs hT _ hfits
  refine ⟨b ++ a, rs ++ rs', hU, List.forall_mem_append.2 ⟨hrs, hrs'⟩, ?_⟩
  rw [addAll_append, ← hscopes]
  exact hscopes'

/-- What follows is evaluated behind what assigns some names. -/
theorem bind {k : α → Redirect β} (hm : Tracks this M m T) (assigned : List String)
    (hk : ∀ x a rs, T x a rs →
      Tracks this (M.after assigned a) (k x) fun y b rs' => U y (b ++ a) (rs ++ rs')) :
    Tracks this M (m >>= k) U :=
  hm.bindAt (M.after assigned) (fun a _ hM => hM.after assigned a) hk

end Redirect.Tracks

section

variable {this : String} {target iterable e : Expr} {v : Option Expr} {tests : List Expr}
  {rest : List Clause} {names : List String} {s scopes t u w : List NameScope}

/-- A clause is redirected part by part, its target being bound behind the iterable. -/
theorem redirectedClauses_cons {asynchronous : Bool}
    (hs : (iterable.redirected this s).2 = ⟨false, names⟩ :: scopes)
    (ht : (redirectedAll this tests (⟨false, target.names ++ names⟩ :: scopes)).2 = t) :
    redirectedClauses this (.mk asynchronous target iterable tests :: rest) s =
      (.mk asynchronous target (iterable.redirected this s).1
        (redirectedAll this tests (⟨false, target.names ++ names⟩ :: scopes)).1 ::
          (redirectedClauses this rest t).1, (redirectedClauses this rest t).2) := by
  -- With a variable for the scopes behind the iterable both sides are the same by definition.
  have hparts : ∀ u, (iterable.redirected this s).2 = u →
      redirectedClauses this (.mk asynchronous target iterable tests :: rest) s =
        let x := redirectedAll this tests (Redirect.bind target.names u).2
        (.mk asynchronous target (iterable.redirected this s).1 x.1 ::
          (redirectedClauses this rest x.2).1, (redirectedClauses this rest x.2).2) := by
    rintro u rfl
    rfl
  subst ht
  exact hparts _ hs

/-- The inside of a comprehension is redirected part by part. -/
theorem inside_eq
    (ht : (redirectedAll this tests (⟨false, target.names ++ []⟩ :: scopes)).2 = t)
    (hu : (redirectedClauses this rest t).2 = u) (hw : (e.redirected this u).2 = w) :
    inside this target tests rest e v (⟨false, []⟩ :: scopes) =
      (((redirectedAll this tests (⟨false, target.names ++ []⟩ :: scopes)).1,
        (redirectedClauses this rest t).1, (e.redirected this u).1,
        (redirectedOption this v w).1), (redirectedOption this v w).2) := by
  subst ht hu hw
  rfl

end

mutual

/-- Redirection follows the order of evaluation, as far as it does. The induction is on the
expression, and is about all moments, because they change on the way. -/
theorem Expr.tracks (this : String) : ∀ (e : Expr) (M : Moment),
    Tracks this M (e.redirected this) (e.Turns M)
  | .name id, M => by
      intro scopes hM
      refine ⟨[], _, .name, List.forall_mem_singleton.2 (hM.isRedirected this id), ?_⟩
      rw [Expr.redirected_name]
      rfl
  | .literal v, M => by
      rw [Expr.redirected]
      exact .pure .literal
  | .unary op e, M => by
      rw [Expr.redirected]
      exact (e.tracks this M).map fun _ _ _ => .unary
  | .binary op left right, M => by
      rw [Expr.redirected]
      exact (left.tracks this M).bind _ fun _ _ _ hleft =>
        (right.tracks this _).map fun _ _ _ => .binary hleft
  | .logical op es, M => by
      rw [Expr.redirected]
      exact (tracksAll this es M).map fun _ _ _ => .logical
  | .compare e links, M => by
      rw [Expr.redirected]
      exact (e.tracks this M).bind _ fun _ _ _ he =>
        (tracksLinks this links _).map fun _ _ _ => .compare he
  | .ifElse test body orelse, M => by
      rw [Expr.redirected]
      refine (test.tracks this M).bind test.assigned fun _ a _ ht => ?_
      -- the second branch is not evaluated behind the first one
      refine (body.tracks this _).bindAt (M.after test.assigned a).knowing
        (fun b _ hM => hM.knowing b) fun _ _ _ hbody => ?_
      exact (orelse.tracks this _).map fun _ _ _ => .ifElse ht hbody
  | .lambda ps body, M => by
      intro scopes hM
      obtain ⟨a, rs, hnamed, hrs, ha⟩ := tracksDefaults this (· == .keywordOnly) ps _ _
        (hM.behind (assignedOfParams (ps.filter (·.kind != .keywordOnly))))
      have hothers := hM.knowing a
      rw [← ha] at hothers
      obtain ⟨b, rs', hothers, hrs', hb⟩ := tracksDefaults this (· != .keywordOnly) ps _ _ hothers
      have hdefaults := hM.knowing (b ++ a)
      rw [addAll_append, ← ha, ← hb] at hdefaults
      obtain ⟨c, rs'', hbody, hrs'', hc⟩ := body.tracks this _ _ (hdefaults.inLambda ps body)
      refine ⟨b ++ a, rs ++ rs' ++ rs'', .lambda hnamed hothers hbody, ?_, ?_⟩
      · exact List.forall_mem_append.2 ⟨List.forall_mem_append.2 ⟨hrs, hrs'⟩, hrs''⟩
      · show (body.redirected this _).2.drop 1 = _
        rw [hc, addAll_function, addAll_append, ← ha, ← hb]
        rfl
  | .call function args, M => by
      rw [Expr.redirected]
      exact (function.tracks this M).bind _ fun _ _ _ hf =>
        (tracksArguments this args _).map fun _ _ _ => .call hf
  | .attribute e name, M => by
      rw [Expr.redirected]
      exact (e.tracks this M).map fun _ _ _ => .attribute
  | .subscript e i, M => by
      rw [Expr.redirected]
      exact (e.tracks this M).bind _ fun _ _ _ he =>
        (i.tracks this _).map fun _ _ _ => .subscript he
  | .slice lower upper step, M => by
      rw [Expr.redirected]
      exact (tracksOption this lower M).bind _ fun _ _ _ hlower =>
        (tracksOption this upper _).bind _ fun _ _ _ hupper =>
          (tracksOption this step _).map fun _ _ _ => .slice hlower hupper
  | .display kind es, M => by
      rw [Expr.redirected]
      exact (tracksAll this es M).map fun _ _ _ => .display
  | .dict items, M => by
      intro scopes hM
      obtain ⟨-, hV⟩ := hM.of_assigns (assigns_redirectedKeys this items)
      obtain ⟨a, b, rs, hitems, hrs, ha, hb⟩ :=
        tracksItems this items _ _ _ _ hM hV (Set.Subset.refl _)
      rw [hM.eq_knowing ha] at hitems
      refine ⟨b ++ a, rs, .dict hitems, hrs, ?_⟩
      rw [addAll_append, ← ha]
      exact hb
  | .starred e, M => by
      rw [Expr.redirected]
      exact (e.tracks this M).map fun _ _ _ => .starred
  | .comprehension kind e v [], M => by
      rw [Expr.redirected]
      exact .pure .bare
  | .comprehension kind e v (.mk asynchronous target iterable tests :: rest), M => by
      intro scopes hM
      obtain ⟨a, rs₁, hiterable, h₁, ha⟩ := iterable.tracks this M scopes hM
      have hN := ((hM.after iterable.assigned a).inComprehension kind (Expr.comprehension kind e v
        (.mk asynchronous target iterable tests :: rest)).assigned).bindNames target.names
      rw [← ha] at hN
      obtain ⟨b, rs₂, htests, h₂, hb⟩ := tracksAll this tests _ _ hN
      have hrest := hN.after (assignedOfExprs tests) b
      rw [addAll_comprehension] at hb hrest
      obtain ⟨c, names, rs₃, hrest, h₃, hc, hO⟩ := tracksClauses this rest _ _ _ hrest
      obtain ⟨d, rs₄, he, h₄, hd⟩ := e.tracks this _ _ hO
      have hlast := hO.after e.assigned d
      rw [addAll_comprehension] at hd hlast
      obtain ⟨g, rs₅, hv, h₅, hg⟩ := tracksOption this v _ _ hlast
      rw [addAll_comprehension] at hg
      have hinside := inside_eq (v := v) hb hc hd
      refine ⟨g ++ d ++ c ++ b ++ a, rs₁ ++ rs₂ ++ rs₃ ++ rs₄ ++ rs₅, ?_, ?_, ?_⟩
      · rw [Expr.fst_redirected_comprehension, hinside]
        exact .comprehension hiterable rfl htests hrest rfl he hv
      · simp only [List.forall_mem_append]
        exact ⟨⟨⟨⟨h₁, h₂⟩, h₃⟩, h₄⟩, h₅⟩
      · show (inside this target tests rest e v
          (⟨false, []⟩ :: (iterable.redirected this scopes).2)).2.drop 1 = _
        rw [hinside, hg, ha]
        simp only [addAll_append, List.drop_succ_cons, List.drop_zero]
  | .assign target e, M => by
      intro scopes hM
      obtain ⟨a, rs, he, hrs, hscopes⟩ := e.tracks this M scopes hM
      refine ⟨target :: a, rs, .assign he, hrs, ?_⟩
      show addAssigned target (e.redirected this scopes).2 = _
      rw [hscopes]
      rfl
  | .await e, M => by
      rw [Expr.redirected]
      exact (e.tracks this M).map fun _ _ _ => .await

theorem tracksAll (this : String) : ∀ (es : List Expr) (M : Moment),
    Tracks this M (redirectedAll this es) (AllTurn M es)
  | [], M => .pure .nil
  | e :: es, M => by
      rw [redirectedAll]
      exact (e.tracks this M).bind _ fun _ _ _ he =>
        (tracksAll this es _).map fun _ _ _ => .cons he

theorem tracksOption (this : String) : ∀ (e : Option Expr) (M : Moment),
    Tracks this M (redirectedOption this e) (OptionTurns M e)
  | none, M => .pure .none
  | some e, M => by
      rw [redirectedOption]
      exact (e.tracks this M).map fun _ _ _ => .some

theorem tracksLinks (this : String) : ∀ (ls : List Link) (M : Moment),
    Tracks this M (redirectedLinks this ls) (LinksTurn M ls)
  | [], M => .pure .nil
  | .mk op e :: ls, M => by
      rw [redirectedLinks]
      exact (e.tracks this M).bind _ fun _ _ _ he =>
        (tracksLinks this ls _).map fun _ _ _ => .cons he

theorem tracksDefaults (this : String) (pick : ParamKind → Bool) :
    ∀ (ps : List Param) (M : Moment),
      Tracks this M (redirectedDefaults this pick ps) (DefaultsTurn pick M ps)
  | [], M => .pure .nil
  | .mk kind name d :: ps, M => by
      rw [redirectedDefaults]
      split
      · rename_i hpick
        exact (tracksOption this d M).bind _ fun _ _ _ hd =>
          (tracksDefaults this pick ps _).map fun _ _ _ => .picked hpick hd
      · rename_i hpick
        exact (tracksDefaults this pick ps M).map fun _ _ _ => .left (Bool.eq_false_iff.2 hpick)

theorem tracksArguments (this : String) : ∀ (args : List Argument) (M : Moment),
    Tracks this M (redirectedArguments this args) (ArgumentsTurn M args)
  | [], M => .pure .nil
  | .positional e :: args, M => by
      rw [redirectedArguments]
      exact (e.tracks this M).bind _ fun _ _ _ he =>
        (tracksArguments this args _).map fun _ _ _ => .positional he
  | .keyword name e :: args, M => by
      rw [redirectedArguments]
      exact (e.tracks this M).bind _ fun _ _ _ he =>
        (tracksArguments this args _).map fun _ _ _ => .keyword he
  | .spread e :: args, M => by
      rw [redirectedArguments]
      exact (e.tracks this M).bind _ fun _ _ _ he =>
        (tracksArguments this args _).map fun _ _ _ => .spread he

/-- Clauses bind their targets in the scope of the comprehension. -/
theorem tracksClauses (this : String) : ∀ (cs : List Clause) (M : Moment) (names : List String)
    (scopes : List NameScope), M.Fits (⟨false, names⟩ :: scopes) →
    ∃ a names' rs, ClausesTurn M cs (redirectedClauses this cs (⟨false, names⟩ :: scopes)).1 a rs ∧
      (∀ r ∈ rs, r.IsRedirected this) ∧
      (redirectedClauses this cs (⟨false, names⟩ :: scopes)).2 =
        ⟨false, names'⟩ :: addAll a scopes ∧
      ((M.after (assignedOfClauses cs) a).knowing (targetNames cs)).Fits
        (⟨false, names'⟩ :: addAll a scopes)
  | [], M, names, scopes, hM => by
      refine ⟨[], names, [], .nil, nofun, rfl, ?_⟩
      exact (hM.after [] []).bindNames []
  | .mk asynchronous target iterable tests :: cs, M, names, scopes, hM => by
      -- the iterable comes first, then the target is bound, and the tests see it
      obtain ⟨a, rs, hiterable, hrs, ha⟩ := iterable.tracks this M _ hM
      have hN := hM.after iterable.assigned a
      rw [addAll_comprehension] at ha hN
      replace hN := hN.bindNames target.names
      obtain ⟨b, rs', htests, hrs', hb⟩ := tracksAll this tests _ _ hN
      have hrest := hN.after (assignedOfExprs tests) b
      rw [addAll_comprehension] at hb hrest
      obtain ⟨c, names', rs'', hcs, hrs'', hc, hfits⟩ := tracksClauses this cs _ _ _ hrest
      refine ⟨c ++ b ++ a, names', rs ++ rs' ++ rs'', ?_, ?_, ?_, ?_⟩
      · rw [redirectedClauses_cons ha hb]
        exact .cons hiterable rfl htests hcs
      · exact List.forall_mem_append.2 ⟨List.forall_mem_append.2 ⟨hrs, hrs'⟩, hrs''⟩
      · rw [redirectedClauses_cons ha hb, addAll_append, addAll_append]
        exact hc
      · rw [addAll_append, addAll_append]
        refine ⟨hfits.function, ?_, (hM.after _ (c ++ b ++ a)).met.trans Set.subset_union_right⟩
        have hnames : targetNames (.mk asynchronous target iterable tests :: cs) =
            target.names ++ targetNames cs := rfl
        -- what is known is the union of the names bound and the names assigned, in whatever order
        rw [← hfits.known, hnames]
        ext id
        simp only [Moment.known_knowing, Moment.known_after, Set.mem_union, Set.mem_ofPred_eq,
          List.mem_append]
        grind

/-- Keys and values are redirected one after the other, and belong together in turn. -/
theorem tracksItems (this : String) : ∀ (items : List DictItem) (K V : Moment)
    (keys values : List NameScope), K.Fits keys → V.Fits values →
    boundIn (redirectedKeys this items keys).2 ⊆ V.known →
    ∃ a b rs,
      ItemsTurn K V items
        (zipItems (redirectedKeys this items keys).1 (redirectedValues this items values).1)
        a b rs ∧
      (∀ r ∈ rs, r.IsRedirected this) ∧
      (redirectedKeys this items keys).2 = addAll a keys ∧
      (redirectedValues this items values).2 = addAll b values
  | [], K, V, keys, values, _, _, _ => ⟨[], [], [], .nil, nofun, rfl, rfl⟩
  | .entry k v :: items, K, V, keys, values, hK, hV, hall => by
      obtain ⟨a, rs, hk, hrs, ha⟩ := k.tracks this K keys hK
      have hkeys := hK.after k.assigned a
      rw [← ha] at hkeys
      -- what a key assigns was met with the other keys
      have hmet : {id | id ∈ a} ⊆ V.known :=
        (Set.subset_union_left.trans
          (hkeys.of_assigns (assigns_redirectedKeys this items)).1).trans hall
      have hV' : (V.after k.assigned a).Fits values := hV.after_of_subset hmet
      obtain ⟨b, rs', hv, hrs', hb⟩ := v.tracks this _ values hV'
      have hvalues := hV'.after v.assigned b
      rw [← hb] at hvalues
      obtain ⟨c, d, rs'', hitems, hrs'', hc, hd⟩ := tracksItems this items _ _ _ _
        (hkeys.behind v.assigned) hvalues
        ((hall.trans Set.subset_union_right).trans Set.subset_union_right)
      refine ⟨c ++ a, d ++ b, rs ++ rs' ++ rs'', .entry hk hv hitems, ?_, ?_, ?_⟩
      · exact List.forall_mem_append.2 ⟨List.forall_mem_append.2 ⟨hrs, hrs'⟩, hrs''⟩
      · rw [addAll_append, ← ha]
        exact hc
      · rw [addAll_append, ← hb]
        exact hd
  | .spread v :: items, K, V, keys, values, hK, hV, hall => by
      obtain ⟨b, rs, hv, hrs, hb⟩ := v.tracks this V values hV
      have hvalues := hV.after v.assigned b
      rw [← hb] at hvalues
      obtain ⟨c, d, rs', hitems, hrs', hc, hd⟩ := tracksItems this items _ _ _ _
        (hK.behind v.assigned) hvalues (hall.trans Set.subset_union_right)
      refine ⟨c, d ++ b, rs ++ rs', .spread hv hitems, List.forall_mem_append.2 ⟨hrs, hrs'⟩, hc, ?_⟩
      rw [addAll_append, ← hb]
      exact hd

end

/-! ## The value that is read -/

/-- Whether a name is a variable of the innermost function, and of no comprehension in it. -/
def Env.Sees (env : Env) (b : Binder) (id : String) : Prop :=
  env.binders.find? (·.ofFunction) = some b ∧ env.binders.find? (·.names.contains id) = some b

namespace Eval

theorem store_of_sees {env : Env} {b : Binder} {id : String} (h : env.Sees b id) (v : Value)
    (m : Machine) : store env id v m = .ok ((), m.setVariable b.frame id v) := by
  rw [store, h.1]
  rfl

theorem load_of_sees {env : Env} {b : Binder} {id : String} {m : Machine} {v : Value}
    (h : env.Sees b id) (hid : id ≠ resultName) (hv : m.valueOf b.frame id = some v) :
    load env id m = .ok (v, m) := by
  have hget : (get : Eval Machine) m = .ok (m, m) := rfl
  rw [load, h.2]
  dsimp only
  rw [bind_of_ok hget, hv]
  cases v with
  | output =>
      dsimp only
      rw [if_neg hid]
      rfl
  | _ => rfl

/-- What was assigned is read, from within comprehensions, too. -/
theorem load_store {env inner : Env} {b : Binder} {id : String} {m : Machine} (h : env.Sees b id)
    (hinner : inner.Sees b id) (hid : id ≠ resultName) (hm : b.frame < m.frames.size) (v : Value) :
    (do store env id v; load inner id) m = .ok (v, m.setVariable b.frame id v) := by
  rw [bind_of_ok (store_of_sees h v m)]
  exact load_of_sees hinner hid (Machine.valueOf_setVariable hm id v)

end Eval

/-! ## Later reads -/

/-- The first moment of an expression in a template, inside of loops with some names. -/
def Expr.start (e : Expr) (loopNames : List String) : Moment :=
  ⟨∅, ∅, {id | id ∈ e.assigned}, {id | id ∈ loopNames}⟩

theorem Expr.fits_start (e : Expr) (loopNames : List String) :
    (e.start loopNames).Fits [⟨true, loopNames⟩] where
  function := ⟨_, List.mem_singleton.2 rfl, rfl⟩
  known := by simp [start, boundIn, namesOf]
  met := Set.empty_subset _

theorem Read.IsRedirected.stays_iff {this : String} {r : Read} (h : r.IsRedirected this) :
    r.Stays ↔ if r.name = "this" then this = "this" else r.IsKnown := by
  split
  · rename_i hthis
    rw [Stays, h.this hthis, hthis, Expr.name.injEq]
  · rename_i hthis
    constructor
    · intro hstays
      by_contra hknown
      rw [Stays, h.unknown hthis hknown, Expr.resolve, Expr.apply] at hstays
      cases hstays
    · exact h.known hthis

/-- The second key reads the data. -/
example : (Expr.dict [.entry (.literal (.int 1)) (.assign "x" (.literal (.int 5))),
    .entry (.name "x") (.literal (.int 2))]).redirect "ctx" [] =
    .dict [.entry (.literal (.int 1)) (.assign "x" (.literal (.int 5))),
      .entry (.resolve "x") (.literal (.int 2))] := by
  rfl

end Curly
