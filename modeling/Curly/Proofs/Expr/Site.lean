import Curly.Expr.Redirect

/-!
Sites in an expression: where a name is read, and what binds names there.

- A lambda binds its own parameters in its body, and whatever the body assigns; its defaults stand
  outside.
- A comprehension binds the targets of all of its clauses in all of its parts, but for the first
  iterable, which stands outside.

On the other side are the names that redirection takes for bound. In a lambda these are the
parameters of the lambdas in its defaults, too, and behind a target all names that the target
mentions, those among them that are only read by an attribute or a subscript.

A rule says what is to hold at the sites of an expression; an outcome says what is to become of what
stands there.
-/

namespace Curly

/-- A site: what the parameters and targets around it bind, the other names that are bound there, by
a loop or by an assignment in a function around it, and the names that are taken for bound. -/
structure Site where
  binders : List String
  others : List String
  taken : List String

namespace Site

/-- The names that are bound at a site. -/
def bound (P : Site) : List String := P.binders ++ P.others

/-- The site of the body of a lambda. -/
def inLambda (P : Site) (ps : List Param) (body : Expr) : Site :=
  ⟨ps.map Param.name ++ P.binders, body.assigned ++ P.others, paramNamesOfParams ps ++ P.taken⟩

/-- The site in a comprehension before its first target. -/
def inComprehension (P : Site) (cs : List Clause) : Site :=
  { P with binders := (cs.flatMap fun c => c.target.bound) ++ P.binders }

/-- The site behind a target. -/
def afterTarget (P : Site) (target : Expr) : Site :=
  { P with taken := target.names ++ P.taken }

/-- The site behind the targets of clauses. -/
def afterTargets (P : Site) : List Clause → Site
  | [] => P
  | c :: cs => (P.afterTarget c.target).afterTargets cs

/-- Targets are not among the other names that are bound. -/
theorem others_afterTargets (P : Site) (cs : List Clause) :
    (P.afterTargets cs).others = P.others := by
  induction cs generalizing P with
  | nil => rfl
  | cons c cs ih => exact ih (P.afterTarget c.target)

end Site

/-- The site of an expression in a template, inside of loops with some names. -/
def Expr.site (e : Expr) (loopNames : List String) : Site :=
  ⟨[], e.assigned ++ loopNames, loopNames⟩

/-- What is to hold where a name is read, where a member of a value is read, and where a name is
read that redirection leaves alone. -/
structure Rule where
  read : Site → String → Prop
  member : Site → Prop
  kept : Site → String → Prop

/-- The rule for parts that redirection leaves alone. -/
def Rule.keeping (kept : Site → String → Prop) : Rule := ⟨kept, fun _ => True, kept⟩

mutual

/-- A rule holds everywhere in an expression. -/
def Expr.Everywhere (r : Rule) (P : Site) : Expr → Prop
  | .name id => r.read P id
  | .literal _ => True
  | .unary _ e => e.Everywhere r P
  | .binary _ left right => left.Everywhere r P ∧ right.Everywhere r P
  | .logical _ es => EverywhereInAll r P es
  | .compare e links => e.Everywhere r P ∧ EverywhereInLinks r P links
  | .ifElse t b o => t.Everywhere r P ∧ b.Everywhere r P ∧ o.Everywhere r P
  | .lambda ps b => EverywhereInParams r P ps ∧ b.Everywhere r (P.inLambda ps b)
  | .call f args => f.Everywhere r P ∧ EverywhereInArguments r P args
  | .attribute e _ => r.member P ∧ e.Everywhere r P
  | .subscript e i => e.Everywhere r P ∧ i.Everywhere r P
  | .slice lo hi step =>
    EverywhereInOption r P lo ∧ EverywhereInOption r P hi ∧ EverywhereInOption r P step
  | .display _ es => EverywhereInAll r P es
  | .dict items => EverywhereInItems r P items
  | .starred e => e.Everywhere r P
  | .comprehension _ e v cs =>
    match cs with
    | [] => e.Everywhere (.keeping r.kept) P ∧ EverywhereInOption (.keeping r.kept) P v
    | .mk asynchronous target iterable tests :: rest =>
      let all := .mk asynchronous target iterable tests :: rest
      iterable.Everywhere r P ∧ target.EverywhereInTarget r.kept (P.inComprehension all) ∧
        EverywhereInAll r ((P.inComprehension all).afterTarget target) tests ∧
        EverywhereInClauses r ((P.inComprehension all).afterTarget target) rest ∧
        e.Everywhere r ((P.inComprehension all).afterTargets all) ∧
        EverywhereInOption r ((P.inComprehension all).afterTargets all) v
  | .assign _ e => e.Everywhere r P
  | .await e => e.Everywhere r P

/-- A rule holds everywhere in several expressions. -/
def EverywhereInAll (r : Rule) (P : Site) : List Expr → Prop
  | [] => True
  | e :: es => e.Everywhere r P ∧ EverywhereInAll r P es

/-- A rule holds everywhere in an expression that may be missing. -/
def EverywhereInOption (r : Rule) (P : Site) : Option Expr → Prop
  | none => True
  | some e => e.Everywhere r P

/-- A rule holds everywhere in the operands of comparisons. -/
def EverywhereInLinks (r : Rule) (P : Site) : List Link → Prop
  | [] => True
  | .mk _ e :: ls => e.Everywhere r P ∧ EverywhereInLinks r P ls

/-- A rule holds everywhere in defaults. -/
def EverywhereInParams (r : Rule) (P : Site) : List Param → Prop
  | [] => True
  | .mk _ _ d :: ps => EverywhereInOption r P d ∧ EverywhereInParams r P ps

/-- A rule holds everywhere in arguments. -/
def EverywhereInArguments (r : Rule) (P : Site) : List Argument → Prop
  | [] => True
  | .positional e :: as => e.Everywhere r P ∧ EverywhereInArguments r P as
  | .keyword _ e :: as => e.Everywhere r P ∧ EverywhereInArguments r P as
  | .spread e :: as => e.Everywhere r P ∧ EverywhereInArguments r P as

/-- A rule holds everywhere in dictionary items. -/
def EverywhereInItems (r : Rule) (P : Site) : List DictItem → Prop
  | [] => True
  | .entry k v :: is => k.Everywhere r P ∧ v.Everywhere r P ∧ EverywhereInItems r P is
  | .spread e :: is => e.Everywhere r P ∧ EverywhereInItems r P is

/-- A rule holds everywhere in the clauses of a comprehension after its first. -/
def EverywhereInClauses (r : Rule) (P : Site) : List Clause → Prop
  | [] => True
  | .mk _ target iterable tests :: cs =>
    iterable.Everywhere r P ∧ target.EverywhereInTarget r.kept P ∧
      EverywhereInAll r (P.afterTarget target) tests ∧
      EverywhereInClauses r (P.afterTarget target) cs

/-- Something holds wherever a target reads a name. The names that it binds are not read. -/
def Expr.EverywhereInTarget (kept : Site → String → Prop) (P : Site) : Expr → Prop
  | .starred e => e.EverywhereInTarget kept P
  | .display _ es => EverywhereInTargets kept P es
  | .attribute e _ => e.Everywhere (.keeping kept) P
  | .subscript e i => e.Everywhere (.keeping kept) P ∧ i.Everywhere (.keeping kept) P
  | _ => True

/-- Something holds wherever several targets read a name. -/
def EverywhereInTargets (kept : Site → String → Prop) (P : Site) : List Expr → Prop
  | [] => True
  | e :: es => e.EverywhereInTarget kept P ∧ EverywhereInTargets kept P es

end

/-- What is to become of a name that is read, where a member of a value may be read by a call, and
where a name may be read that redirection leaves alone. -/
structure Outcome where
  read : Site → String → Expr → Prop
  member : Site → Prop
  kept : Site → String → Prop

mutual

/-- An expression becomes another one, which differs from it only where names and attributes are
read, and there an outcome holds. -/
def Expr.Becomes (o : Outcome) (P : Site) : Expr → Expr → Prop
  | .name id, f => o.read P id f
  | .literal v, f => f = .literal v
  | .unary op e, f => ∃ e', f = .unary op e' ∧ e.Becomes o P e'
  | .binary op left right, f =>
    ∃ left' right', f = .binary op left' right' ∧ left.Becomes o P left' ∧ right.Becomes o P right'
  | .logical op es, f => ∃ es', f = .logical op es' ∧ AllBecome o P es es'
  | .compare e links, f =>
    ∃ e' links', f = .compare e' links' ∧ e.Becomes o P e' ∧ LinksBecome o P links links'
  | .ifElse test body orelse, f =>
    ∃ test' body' orelse', f = .ifElse test' body' orelse' ∧ test.Becomes o P test' ∧
      body.Becomes o P body' ∧ orelse.Becomes o P orelse'
  | .lambda ps body, f =>
    ∃ ps' body', f = .lambda ps' body' ∧ ParamsBecome o P ps ps' ∧
      body.Becomes o (P.inLambda ps body) body'
  | .call function args, f =>
    ∃ function' args', f = .call function' args' ∧ function.Becomes o P function' ∧
      ArgumentsBecome o P args args'
  | .attribute e name, f => ∃ e', f = .member e' name ∧ o.member P ∧ e.Becomes o P e'
  | .subscript e i, f => ∃ e' i', f = .subscript e' i' ∧ e.Becomes o P e' ∧ i.Becomes o P i'
  | .slice lower upper step, f =>
    ∃ lower' upper' step', f = .slice lower' upper' step' ∧ OptionBecomes o P lower lower' ∧
      OptionBecomes o P upper upper' ∧ OptionBecomes o P step step'
  | .display kind es, f => ∃ es', f = .display kind es' ∧ AllBecome o P es es'
  | .dict items, f => ∃ items', f = .dict items' ∧ ItemsBecome o P items items'
  | .starred e, f => ∃ e', f = .starred e' ∧ e.Becomes o P e'
  | .comprehension kind e v cs, f =>
    match cs with
    | [] =>
      f = .comprehension kind e v [] ∧
        e.Everywhere (.keeping o.kept) P ∧ EverywhereInOption (.keeping o.kept) P v
    | .mk asynchronous target iterable tests :: rest =>
      let all := .mk asynchronous target iterable tests :: rest
      ∃ e' v' iterable' tests' rest',
        f = .comprehension kind e' v' (.mk asynchronous target iterable' tests' :: rest') ∧
        iterable.Becomes o P iterable' ∧
        target.EverywhereInTarget o.kept (P.inComprehension all) ∧
        AllBecome o ((P.inComprehension all).afterTarget target) tests tests' ∧
        ClausesBecome o ((P.inComprehension all).afterTarget target) rest rest' ∧
        e.Becomes o ((P.inComprehension all).afterTargets all) e' ∧
        OptionBecomes o ((P.inComprehension all).afterTargets all) v v'
  | .assign target e, f => ∃ e', f = .assign target e' ∧ e.Becomes o P e'
  | .await e, f => ∃ e', f = .await e' ∧ e.Becomes o P e'

/-- Expressions become others. -/
def AllBecome (o : Outcome) (P : Site) : List Expr → List Expr → Prop
  | [], fs => fs = []
  | e :: es, fs => ∃ e' es', fs = e' :: es' ∧ e.Becomes o P e' ∧ AllBecome o P es es'

/-- An expression that may be missing becomes another one. -/
def OptionBecomes (o : Outcome) (P : Site) : Option Expr → Option Expr → Prop
  | none, f => f = none
  | some e, f => ∃ e', f = some e' ∧ e.Becomes o P e'

/-- The operands of comparisons become others. -/
def LinksBecome (o : Outcome) (P : Site) : List Link → List Link → Prop
  | [], fs => fs = []
  | .mk op e :: ls, fs =>
    ∃ e' ls', fs = .mk op e' :: ls' ∧ e.Becomes o P e' ∧ LinksBecome o P ls ls'

/-- The defaults of parameters become others. -/
def ParamsBecome (o : Outcome) (P : Site) : List Param → List Param → Prop
  | [], fs => fs = []
  | .mk kind name d :: ps, fs =>
    ∃ d' ps', fs = .mk kind name d' :: ps' ∧ OptionBecomes o P d d' ∧ ParamsBecome o P ps ps'

/-- Arguments become others. -/
def ArgumentsBecome (o : Outcome) (P : Site) : List Argument → List Argument → Prop
  | [], fs => fs = []
  | .positional e :: as, fs =>
    ∃ e' as', fs = .positional e' :: as' ∧ e.Becomes o P e' ∧ ArgumentsBecome o P as as'
  | .keyword name e :: as, fs =>
    ∃ e' as', fs = .keyword name e' :: as' ∧ e.Becomes o P e' ∧ ArgumentsBecome o P as as'
  | .spread e :: as, fs =>
    ∃ e' as', fs = .spread e' :: as' ∧ e.Becomes o P e' ∧ ArgumentsBecome o P as as'

/-- Dictionary items become others. -/
def ItemsBecome (o : Outcome) (P : Site) : List DictItem → List DictItem → Prop
  | [], fs => fs = []
  | .entry k v :: is, fs =>
    ∃ k' v' is', fs = .entry k' v' :: is' ∧ k.Becomes o P k' ∧ v.Becomes o P v' ∧
      ItemsBecome o P is is'
  | .spread e :: is, fs =>
    ∃ e' is', fs = .spread e' :: is' ∧ e.Becomes o P e' ∧ ItemsBecome o P is is'

/-- The clauses of a comprehension after its first become others. Targets stay. -/
def ClausesBecome (o : Outcome) (P : Site) : List Clause → List Clause → Prop
  | [], fs => fs = []
  | .mk asynchronous target iterable tests :: cs, fs =>
    ∃ iterable' tests' cs', fs = .mk asynchronous target iterable' tests' :: cs' ∧
      iterable.Becomes o P iterable' ∧ target.EverywhereInTarget o.kept P ∧
      AllBecome o (P.afterTarget target) tests tests' ∧
      ClausesBecome o (P.afterTarget target) cs cs'

end

end Curly
