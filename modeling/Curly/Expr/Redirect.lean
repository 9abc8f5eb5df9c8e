import Curly.Expr
import Curly.Helper

/-!
Redirection: what an author writes as a plain name or an attribute reads the data of the template
instead of whatever the generated code has under that name.

- `this` becomes the innermost item, or the whole data outside loops;
- a name that nothing in the expression binds becomes a call of the resolving helper;
- `value.name` becomes a call of the member helper.

Parameters of a lambda are bound in its body, targets of a comprehension in what follows them there.
Assigned names are bound in the function around them, the names of the loops everywhere.
-/

namespace Curly

/-- Names bound by one binder. Assigned names are added to the innermost scope of a function. -/
structure NameScope where
  ofFunction : Bool
  names : List String
  deriving Inhabited

mutual

/-- The names of the parameters of every lambda in an expression. -/
def Expr.paramNames : Expr → List String
  | .name _ | .literal _ => []
  | .unary _ e => e.paramNames
  | .binary _ l r => l.paramNames ++ r.paramNames
  | .logical _ es => paramNamesOfExprs es
  | .compare e links => e.paramNames ++ paramNamesOfLinks links
  | .ifElse t b o => t.paramNames ++ b.paramNames ++ o.paramNames
  | .lambda ps b => paramNamesOfParams ps ++ b.paramNames
  | .call f args => f.paramNames ++ paramNamesOfArguments args
  | .attribute e _ => e.paramNames
  | .subscript e i => e.paramNames ++ i.paramNames
  | .slice lo hi step =>
    paramNamesOfOption lo ++ paramNamesOfOption hi ++ paramNamesOfOption step
  | .display _ es => paramNamesOfExprs es
  | .dict items => paramNamesOfItems items
  | .starred e => e.paramNames
  | .comprehension _ e v cs => e.paramNames ++ paramNamesOfOption v ++ paramNamesOfClauses cs
  | .assign _ e => e.paramNames
  | .await e => e.paramNames

/-- `Expr.paramNames` of several expressions. -/
def paramNamesOfExprs : List Expr → List String
  | [] => []
  | e :: es => e.paramNames ++ paramNamesOfExprs es

/-- `Expr.paramNames` of an optional expression. -/
def paramNamesOfOption : Option Expr → List String
  | none => []
  | some e => e.paramNames

/-- `Expr.paramNames` of comparison links. -/
def paramNamesOfLinks : List Link → List String
  | [] => []
  | .mk _ e :: ls => e.paramNames ++ paramNamesOfLinks ls

/-- The names of parameters, and those of the lambdas in their defaults. -/
def paramNamesOfParams : List Param → List String
  | [] => []
  | .mk _ name d :: ps => name :: paramNamesOfOption d ++ paramNamesOfParams ps

/-- `Expr.paramNames` of arguments. -/
def paramNamesOfArguments : List Argument → List String
  | [] => []
  | .positional e :: as => e.paramNames ++ paramNamesOfArguments as
  | .keyword _ e :: as => e.paramNames ++ paramNamesOfArguments as
  | .spread e :: as => e.paramNames ++ paramNamesOfArguments as

/-- `Expr.paramNames` of dictionary items. -/
def paramNamesOfItems : List DictItem → List String
  | [] => []
  | .entry k v :: is => k.paramNames ++ v.paramNames ++ paramNamesOfItems is
  | .spread e :: is => e.paramNames ++ paramNamesOfItems is

/-- `Expr.paramNames` of comprehension clauses. -/
def paramNamesOfClauses : List Clause → List String
  | [] => []
  | .mk _ t i ifs :: cs =>
    t.paramNames ++ i.paramNames ++ paramNamesOfExprs ifs ++ paramNamesOfClauses cs

end

/-- Redirection goes through an expression in the order of evaluation, but for a few places, and
knows the scopes around the place where it is, the innermost first. -/
abbrev Redirect := StateM (List NameScope)

namespace Redirect

/-- Whether a scope binds a name. -/
def isBound (id : String) : Redirect Bool := return (← get).any (·.names.contains id)

/-- Adds a name to the innermost scope of a function. -/
def addAssigned (id : String) : List NameScope → List NameScope
  | [] => []
  | s :: ss =>
    if s.ofFunction then { s with names := id :: s.names } :: ss else s :: addAssigned id ss

/-- Opens a scope. -/
def enter (s : NameScope) : Redirect Unit := modify (s :: ·)

/-- Closes the innermost scope. -/
def leave : Redirect Unit := modify (·.drop 1)

/-- Binds names in the innermost scope. -/
def bind (names : List String) : Redirect Unit :=
  modify fun
    | [] => []
    | s :: ss => { s with names := names ++ s.names } :: ss

/-- Dictionary items from their keys, which spread ones lack, and values. -/
def zipItems : List (Option Expr) → List Expr → List DictItem
  | some k :: ks, v :: vs => .entry k v :: zipItems ks vs
  | none :: ks, v :: vs => .spread v :: zipItems ks vs
  | _, _ => []

/-- Parameters with their defaults, those that can only be named being apart from the others. -/
def zipParams : List Param → (named others : List (Option Expr)) → List Param
  | .mk kind name _ :: ps, n :: ns, o :: os =>
    .mk kind name (if kind = .keywordOnly then n else o) :: zipParams ps ns os
  | _, _, _ => []

end Redirect

/-- The call that reads a name from the data. -/
def Expr.resolve (id : String) : Expr :=
  .apply (.name Helper.resolve.name) [.name contextName, .str id]

/-- The call that reads a member of a value. -/
def Expr.member (value : Expr) (name : String) : Expr :=
  .apply (.name Helper.member.name) [value, .str name]

open Redirect in
mutual

/-- Redirects an expression; `this` is the name of what `this` stands for. -/
def Expr.redirected (this : String) : Expr → Redirect Expr
  | .name id => do
    if id = "this" then return .name this
    if ← isBound id then return .name id
    return .resolve id
  | .literal v => return .literal v
  | .unary op e => return .unary op (← e.redirected this)
  | .binary op l r => do
    let l ← l.redirected this
    return .binary op l (← r.redirected this)
  | .logical op es => return .logical op (← redirectedAll this es)
  | .compare e links => do
    let e ← e.redirected this
    return .compare e (← redirectedLinks this links)
  | .ifElse t b o => do
    let t ← t.redirected this
    let b ← b.redirected this
    return .ifElse t b (← o.redirected this)
  | .lambda ps b => do
    -- The passage meets the defaults of keyword-only parameters before the others, and all of them
    -- before the parameters are bound.
    let named ← redirectedDefaults this (· == .keywordOnly) ps
    let others ← redirectedDefaults this (· != .keywordOnly) ps
    enter ⟨true, paramNamesOfParams ps⟩
    let b ← b.redirected this
    leave
    return .lambda (zipParams ps named others) b
  | .call f args => do
    let f ← f.redirected this
    return .call f (← redirectedArguments this args)
  | .attribute e name => return .member (← e.redirected this) name
  | .subscript e i => do
    let e ← e.redirected this
    return .subscript e (← i.redirected this)
  | .slice lo hi step => do
    let lo ← redirectedOption this lo
    let hi ← redirectedOption this hi
    return .slice lo hi (← redirectedOption this step)
  | .display kind es => return .display kind (← redirectedAll this es)
  | .dict items => do
    -- All keys are met before the first value, so names that a value assigns are not bound in any
    -- key.
    let keys ← redirectedKeys this items
    return .dict (zipItems keys (← redirectedValues this items))
  | .starred e => return .starred (← e.redirected this)
  | .comprehension kind e v cs => do
    match cs with
    | [] => return .comprehension kind e v []
    | .mk asynchronous target iterable tests :: rest =>
      -- Met before the scope of the comprehension is entered.
      let iterable ← iterable.redirected this
      enter ⟨false, []⟩
      bind target.names
      let tests ← redirectedAll this tests
      let rest ← redirectedClauses this rest
      let e ← e.redirected this
      let v ← redirectedOption this v
      leave
      return .comprehension kind e v (.mk asynchronous target iterable tests :: rest)
  | .assign target e => do
    let e ← e.redirected this
    modify (addAssigned target)
    return .assign target e
  | .await e => return .await (← e.redirected this)

/-- Redirects expressions in turn. -/
def redirectedAll (this : String) : List Expr → Redirect (List Expr)
  | [] => return []
  | e :: es => do
    let e ← e.redirected this
    return e :: (← redirectedAll this es)

/-- Redirects an expression that may be missing. -/
def redirectedOption (this : String) : Option Expr → Redirect (Option Expr)
  | none => return none
  | some e => return some (← e.redirected this)

/-- Redirects the links of a chain of comparisons. -/
def redirectedLinks (this : String) : List Link → Redirect (List Link)
  | [] => return []
  | .mk op e :: ls => do
    let e ← e.redirected this
    return .mk op e :: (← redirectedLinks this ls)

/-- Redirects the defaults of the parameters of some kinds. -/
def redirectedDefaults (this : String) (pick : ParamKind → Bool) :
    List Param → Redirect (List (Option Expr))
  | [] => return []
  | .mk kind _ d :: ps => do
    let d ← if pick kind then redirectedOption this d else pure none
    return d :: (← redirectedDefaults this pick ps)

/-- Redirects arguments in turn. -/
def redirectedArguments (this : String) : List Argument → Redirect (List Argument)
  | [] => return []
  | .positional e :: as => do
    let e ← e.redirected this
    return .positional e :: (← redirectedArguments this as)
  | .keyword name e :: as => do
    let e ← e.redirected this
    return .keyword name e :: (← redirectedArguments this as)
  | .spread e :: as => do
    let e ← e.redirected this
    return .spread e :: (← redirectedArguments this as)

/-- Redirects the keys of dictionary items; spread ones have none. -/
def redirectedKeys (this : String) : List DictItem → Redirect (List (Option Expr))
  | [] => return []
  | .entry k _ :: is => do
    let k ← k.redirected this
    return some k :: (← redirectedKeys this is)
  | .spread _ :: is => return none :: (← redirectedKeys this is)

/-- Redirects the values of dictionary items. -/
def redirectedValues (this : String) : List DictItem → Redirect (List Expr)
  | [] => return []
  | .entry _ v :: is => do
    let v ← v.redirected this
    return v :: (← redirectedValues this is)
  | .spread e :: is => do
    let e ← e.redirected this
    return e :: (← redirectedValues this is)

/-- Redirects the clauses of a comprehension after its first; targets are left as they are. -/
def redirectedClauses (this : String) : List Clause → Redirect (List Clause)
  | [] => return []
  | .mk asynchronous target iterable tests :: cs => do
    let iterable ← iterable.redirected this
    bind target.names
    let tests ← redirectedAll this tests
    return .mk asynchronous target iterable tests :: (← redirectedClauses this cs)

end

/-- An expression whose free names and attributes read the data. The names of the loops around it
are bound throughout. -/
def Expr.redirect (this : String) (loopNames : List String) (e : Expr) : Expr :=
  ((e.redirected this).run [⟨true, loopNames⟩]).1

end Curly
