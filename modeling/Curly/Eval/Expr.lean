import Curly.Eval.Builtin
import Curly.Eval.Identity
import Curly.Eval.Member

/-!
Evaluation of expressions. A name is a variable of the innermost scope that declares it, or else a
helper or a built-in name. Operands are evaluated from left to right; connectives, chains of
comparisons and conditional expressions stop where the result is known. A comprehension is an
iterator that the display around it goes through.
-/

namespace Curly

/-- The value of a literal. -/
def Literal.toValue : Literal → Value
  | .none => .none
  | .bool b => .bool b
  | .ellipsis => .ellipsis
  | .int n => .int n
  | .float x => .float x
  | .imaginary x => .imaginary x
  | .str s _ => .str s
  | .bytes b => .bytes b

/-- How a comprehension is called in the names of the functions that are made in it. -/
def ComprehensionKind.label : ComprehensionKind → String
  | .list => "<listcomp>"
  | .set => "<setcomp>"
  | .dict => "<dictcomp>"
  | .generator => "<genexpr>"

/-- How a lambda is called. -/
def lambdaLabel : String := "<lambda>"

/-- What a value is called when its arguments misfit. -/
def Value.functionText : Value → String
  | .closure _ name .. => name ++ "()"
  | .helper h => h.signature.1 ++ "()"
  | .builtin name | .type name => name ++ "()"
  | .method v name => v.typeName ++ "." ++ name ++ "()"
  | .descriptor typeName name => typeName ++ "." ++ name ++ "()"
  | v => v.typeName ++ " object"

namespace Eval

/-- What a name stands for where no scope declares it. -/
def global (id : String) : Eval Value :=
  match Helper.ofName? id, Builtin.find? id with
  | some h, _ => return .helper h
  | none, some v => return v
  | none, none => throw (.undefinedName id)

/-- The value of a name. The output is seen under its own name, as the pieces that it holds by
then. -/
def load (env : Env) (id : String) : Eval Value := do
  match env.binders.find? (·.names.contains id) with
  | none => global id
  | some b =>
    match (← get).valueOf b.frame id with
    | some .output => if id = resultName then return .list (← gathered) else return .output
    | some v => return v
    | none =>
      if some b = env.binders.head? then throw (.unboundLocal id) else throw (.unboundFree id)

/-- Sets a variable of the function around an expression. -/
def store (env : Env) (id : String) (v : Value) : Eval Unit :=
  match env.binders.find? (·.ofFunction) with
  | some b => setVariable b.frame id v
  | none => return

/-- Whether a comparison holds of the values of two expressions. -/
def compare (h : Hooks) (op : CompareOp) (e f : Expr) (a b : Value) : Eval Bool :=
  match op with
  | .eq => return a.equal b
  | .ne => return !a.equal b
  | .same => return e.sameValue f a b
  | .notSame => return !e.sameValue f a b
  | .within => contains h b a
  | .notWithin => return !(← contains h b a)
  | op => ofExcept (Value.order op a b)

/-- Adds the entries of another dictionary. -/
def spreadEntries (entries : List (Value × Value)) (v : Value) : Eval (List (Value × Value)) := do
  return Value.merge entries (← ofExcept v.spread)

/-- Adds an entry to those of a dictionary. -/
def addEntry (entries : List (Value × Value)) (k v : Value) : Except Fault (List (Value × Value)) :=
  match k.unhashable? with
  | some t => .error (.unhashable t)
  | none => .ok (Value.insert k v entries)

/-- Adds a keyword to those of a call. -/
def addKeyword (function : Value) (keywords : List (String × Value)) (k : String) (v : Value) :
    Except Fault (List (String × Value)) :=
  if (keywords.lookup k).isSome then .error (.keywordTwice function.functionText k)
  else .ok (keywords ++ [(k, v)])

/-- Adds the entries of a dictionary to the keywords of a call. -/
def spreadKeywords (function : Value) (keywords : List (String × Value)) :
    Value → Except Fault (List (String × Value))
  | .dict entries => entries.foldlM (fun ks (k, v) =>
      match k with
      | .str k => addKeyword function ks k v
      | _ => .error .keywordsNotText) keywords
  | v => .error (.spreadArgument function.functionText v.typeName)

/-- What the values of a comprehension's iterator are collected into. -/
def collect (h : Hooks) (kind : ComprehensionKind) (generator : Value) : Eval Value :=
  match kind with
  | .generator => return generator
  | .list => return .list (← elements h generator)
  | .set => return .set (← fold h generator [] fun keys v => do
      return .yield (← ofExcept (addKey keys v)))
  | .dict => return .dict (← fold h generator [] fun entries v => do
      match v with
      | .tuple [k, v] => return .yield (← ofExcept (addEntry entries k v))
      | _ => return .yield entries)

/-- An argument that is starred, if it is the only one by position. -/
def soleStarred? (args : List Argument) : Bool :=
  match args.filter fun
    | .positional _ => true
    | _ => false with
  | [.positional (.starred _)] => true
  | _ => false

/-- The elements of a starred value. -/
def starredElements (h : Hooks) (fault : String → Fault) (v : Value) : Eval (List Value) :=
  match v with
  | .iterator .. => elements h v
  | v => do
    ofExcept v.checkRoom
    match v.elements? with
    | some vs => return vs
    | none => throw (fault v.typeName)

mutual

/-- The value of an expression. -/
def expr (h : Hooks) (env : Env) : Expr → Eval Value
  | .name id => load env id
  | .literal v => return v.toValue
  | .unary op e => do ofExcept ((← expr h env e).operateUnary op)
  | .binary op l r => do
    let a ← expr h env l
    ofExcept (a.operate op (← expr h env r))
  | .logical op es => logical h env op es
  | .compare e links => do chain h env e (← expr h env e) links
  | .ifElse t b o => do if (← expr h env t).isTrue then expr h env b else expr h env o
  | .lambda ps body => do
    -- Defaults belong to the scope around the lambda; those of keyword-only parameters come last.
    let placed ← defaults h env (· != .keywordOnly) ps
    let named ← defaults h env (· == .keywordOnly) ps
    let id ← newClosure
    return .closure id (env.path ++ lambdaLabel) ps body (placed ++ named) env
  | .call f args => do
    let f ← expr h env f
    let fault := if soleStarred? args then .starArgument f.functionText else .starValue
    let a ← arguments h env f fault {} args
    h.call f a
  | .attribute e name => do ofExcept ((← expr h env e).attr name)
  | .subscript e i => do
    let v ← expr h env e
    ofExcept (v.subscript (← expr h env i))
  | .slice lo hi step => do
    let lower ← option h env lo
    let upper ← option h env hi
    return .slice lower upper (← option h env step)
  | .display kind es => do
    match kind with
    | .tuple => return .tuple (← spread h env .starValue es)
    | .list => return .list (← spread h env .starValue es)
    | .set => return .set (← ofExcept ((← spread h env .notIterable es).foldlM addKey []))
  | .dict items => do return .dict (← entries h env [] items)
  | .starred e => expr h env e
  | .comprehension kind e v cs =>
    match cs with
    | [] => throw (.unsupported "comprehension")
    | .mk asynchronous target iterable tests :: rest => do
      -- The first iterable belongs to the scope around, so nothing of the new frame is in it.
      let source ← iterator (← expr h env iterable)
      let clauses := .mk asynchronous target iterable tests :: rest
      let frame ← newFrame []
      let names := clauses.flatMap fun c => c.target.bound
      let inner : Env := ⟨⟨frame, names, false⟩ :: env.binders, env.path ++ kind.label ++ "."⟩
      let id ← newIterator (.generated ⟨inner, e, v, clauses, [source]⟩)
      collect h kind (.iterator id "generator")
  | .assign target e => do
    let v ← expr h env e
    store env target v
    return v
  | .await _ => throw (.unsupported "await")

/-- The value of an expression that may be missing. -/
def option (h : Hooks) (env : Env) : Option Expr → Eval Value
  | none => return .none
  | some e => expr h env e

/-- The value of a connective: that of the operand that decides it. -/
def logical (h : Hooks) (env : Env) (op : LogicalOp) : List Expr → Eval Value
  | [] => return .none
  | [e] => expr h env e
  | e :: es => do
    let v ← expr h env e
    if v.isTrue == (op == .or) then return v else logical h env op es

/-- Whether a chain of comparisons holds, the first operand of which has a value. -/
def chain (h : Hooks) (env : Env) (first : Expr) (left : Value) : List Link → Eval Value
  | [] => return .bool true
  | .mk op e :: links => do
    let right ← expr h env e
    if ← compare h op first e left right then chain h env e right links
    else return .bool false

/-- The values of the defaults of the parameters of some kinds. -/
def defaults (h : Hooks) (env : Env) (pick : ParamKind → Bool) :
    List Param → Eval (List (String × Value))
  | [] => return []
  | .mk kind name (some e) :: ps => do
    if pick kind then
      let v ← expr h env e
      return (name, v) :: (← defaults h env pick ps)
    else defaults h env pick ps
  | .mk _ _ none :: ps => defaults h env pick ps

/-- The arguments of a call, after those in `a`. -/
def arguments (h : Hooks) (env : Env) (function : Value) (fault : String → Fault)
    (a : Arguments) : List Argument → Eval Arguments
  | [] => return a
  | .positional (.starred e) :: args => do
    let vs ← starredElements h fault (← expr h env e)
    arguments h env function fault { a with positional := a.positional ++ vs } args
  | .positional e :: args => do
    let v ← expr h env e
    arguments h env function fault { a with positional := a.positional ++ [v] } args
  | .keyword name e :: args => do
    let v ← expr h env e
    let keywords ← ofExcept (addKeyword function a.keywords name v)
    arguments h env function fault { a with keywords := keywords } args
  | .spread e :: args => do
    let v ← expr h env e
    let keywords ← ofExcept (spreadKeywords function a.keywords v)
    arguments h env function fault { a with keywords := keywords } args

/-- The values of the elements of a display, those of starred ones taken over. -/
def spread (h : Hooks) (env : Env) (fault : String → Fault) : List Expr → Eval (List Value)
  | [] => return []
  | .starred e :: es => do
    let vs ← starredElements h fault (← expr h env e)
    return vs ++ (← spread h env fault es)
  | e :: es => do
    let v ← expr h env e
    return v :: (← spread h env fault es)

/-- The entries of a dictionary display, after those that it already has. -/
def entries (h : Hooks) (env : Env) (done : List (Value × Value)) :
    List DictItem → Eval (List (Value × Value))
  | [] => return done
  | .entry k v :: items => do
    let k ← expr h env k
    let v ← expr h env v
    entries h env (← ofExcept (addEntry done k v)) items
  | .spread e :: items => do
    let v ← expr h env e
    entries h env (← spreadEntries done v) items

end

/-- Cuts the items of a tuple into one value for each target; a starred target takes what the others
leave. -/
def distribute (targets : List Expr) (vs : List Value) : Except Fault (List Value) :=
  let isStarred : Expr → Bool
    | .starred _ => true
    | _ => false
  match targets.findIdx? isStarred with
  | none =>
    if vs.length < targets.length then .error (.tooFew targets.length false vs.length)
    else if targets.length < vs.length then .error (.tooManyValues targets.length)
    else .ok vs
  | some i =>
    let least := targets.length - 1
    if vs.length < least then .error (.tooFew least true vs.length)
    else
      let rest := vs.drop i
      let n := vs.length - least
      .ok (vs.take i ++ .list (rest.take n) :: rest.drop n)

mutual

/-- Binds a target to a value in a scope. A part of another value is no variable: what holds it is
evaluated, but never changed. -/
def bind (h : Hooks) (env : Env) (frame : Nat) : Expr → Value → Eval Unit
  | .name id, v => setVariable frame id v
  | .starred e, v => bind h env frame e v
  | .display _ es, v => do
    let vs ← starredElements h .notUnpackable v
    bindAll h env frame es (← ofExcept (distribute es vs))
  | .attribute e _, _ => do
    let _ ← expr h env e
    throw (.unsupported "target")
  | .subscript e i, _ => do
    let _ ← expr h env e
    let _ ← expr h env i
    throw (.unsupported "target")
  | _, _ => throw (.unsupported "target")

/-- Binds targets to values in turn. -/
def bindAll (h : Hooks) (env : Env) (frame : Nat) : List Expr → List Value → Eval Unit
  | e :: es, v :: vs => do
    bind h env frame e v
    bindAll h env frame es vs
  | _, _ => return

end

/-- Whether all tests hold, in turn. -/
def testsHold (h : Hooks) (env : Env) : List Expr → Eval Bool
  | [] => return true
  | e :: es => do if (← expr h env e).isTrue then testsHold h env es else return false

/-- Goes on with a comprehension up to its next item. -/
def resume (h : Hooks) : (fuel : Nat) → Generator → Eval (Option Value × Generator)
  | 0, _ => throw .tooDeep
  | fuel + 1, g =>
    match g.entered with
    | [] => return (none, g)
    | source :: outer => do
      match ← h.next source, g.clauses[outer.length]? with
      -- The innermost source is used up: the one outside of it goes on.
      | none, _ | _, none => resume h fuel { g with entered := outer }
      | some item, some (.mk _ target _ tests) =>
        bind h g.env ((g.env.binders.head?.map (·.frame)).getD 0) target item
        if ← testsHold h g.env tests then
          match g.clauses[outer.length + 1]? with
          | some (.mk _ _ iterable _) =>
            let inner ← iterator (← expr h g.env iterable)
            resume h fuel { g with entered := inner :: source :: outer }
          | none =>
            let v ← expr h g.env g.element
            match g.value with
            | some e => return (some (.tuple [v, ← expr h g.env e]), g)
            | none => return (some v, g)
        else resume h fuel g

/-- The next items of several iterators; `done` are those of the iterators before, backwards. -/
def nextOfAll (h : Hooks) (strict : Bool) (done : List Value) :
    List Nat → Eval (Option (List Value))
  | [] => return some done.reverse
  | id :: ids => do
    match ← h.next id with
    | some v => nextOfAll h strict (v :: done) ids
    | none =>
      if strict && !done.isEmpty then throw (.zipLength (done.length + 1) false)
      if strict then checkEnded 2 ids
      return none
where
  /-- All further iterators must have ended, too. -/
  checkEnded (position : Nat) : List Nat → Eval Unit
    | [] => return
    | id :: ids => do
      match ← h.next id with
      | some _ => throw (.zipLength position true)
      | none => checkEnded (position + 1) ids

/-- The next item of an iterator. -/
def next (h : Hooks) (id : Nat) : Eval (Option Value) := do
  match (← get).iterators[id]? with
  | none => return none
  | some (.items []) => return none
  | some (.items (v :: vs)) =>
    setIterator id (.items vs)
    return some v
  | some (.numbers _ _ 0) => return none
  | some (.numbers n step (left + 1)) =>
    setIterator id (.numbers (n + step) step left)
    return some (.int n)
  | some (.counted count inner) =>
    match ← h.next inner with
    | none => return none
    | some v =>
      setIterator id (.counted (count + 1) inner)
      return some (.tuple [.int count, v])
  | some (.zipped strict inner) =>
    if inner.isEmpty then return none
    return (← nextOfAll h strict [] inner).map .tuple
  | some (.generated g) =>
    let (v, g) ← resume h itemLimit g
    -- The generator is kept as it was left: the next call enters no source anew.
    setIterator id (.generated g)
    return v

/-- The parameters of a lambda with the values of their defaults. -/
def parameters (defaults : List (String × Value)) (ps : List Param) : List Parameter :=
  ps.map fun p => ⟨p.kind, p.name, defaults.lookup p.name⟩

/-- Calls a value. -/
def call (h : Hooks) (f : Value) (a : Arguments) : Eval Value :=
  match f with
  | .closure _ name ps body defaults env => do
    let bound ← ofExcept (a.bind name (parameters defaults ps))
    let frame ← newFrame bound
    let names := ps.map Param.name ++ body.assigned
    -- The scopes around the body are those that the lambda was written in, not those of the call.
    expr h ⟨⟨frame, names, true⟩ :: env.binders, name ++ ".<locals>."⟩ body
  | .helper which => ofExcept (which.call a)
  | .builtin name => callBuiltin h name a
  | .type name => callType h name a
  | .method .output name => callOutputMethod h name a
  | .method v name => callMethod h v name a
  | .descriptor typeName name => callDescriptor h typeName name a
  | .member v which => callMember h v which a
  | v => throw (.notCallable v.typeName)

/-- Evaluation up to a depth of calls. -/
def hooks : Nat → Hooks
  | 0 => .none
  | depth + 1 => { call := call (hooks depth), next := next (hooks depth) }

/-- How deep calls may be nested. -/
def depthLimit : Nat := 900

end Eval

end Curly
