import Curly.Expr.Lexer

/-!
Validity: what an expression that parses must still satisfy to be run inside a function.

- A lambda names no parameter twice, a call no keyword argument.
- Waiting is possible only in a generator, or in another comprehension inside one of any kind.
- An iterable of a comprehension assigns no names, and what else a comprehension assigns are not
  the names that it, or one around it in the same function, iterates with.
- At most one target among several is starred, and no target alone.
-/

namespace Curly

mutual

/-- Whether an expression waits in the scope that it stands in: a generator waits by itself, other
comprehensions make the scope around them wait. -/
def Expr.suspends : Expr → Bool
  | .name _ | .literal _ => false
  | .unary _ e => e.suspends
  | .binary _ l r => l.suspends || r.suspends
  | .logical _ es => suspendAny es
  | .compare e links => e.suspends || suspendAnyLink links
  | .ifElse t b o => t.suspends || b.suspends || o.suspends
  | .lambda ps _ => suspendAnyParam ps
  | .call f args => f.suspends || suspendAnyArgument args
  | .attribute e _ => e.suspends
  | .subscript e i => e.suspends || i.suspends
  | .slice lo hi step => suspendsOption lo || suspendsOption hi || suspendsOption step
  | .display _ es => suspendAny es
  | .dict items => suspendAnyItem items
  | .starred e => e.suspends
  | .comprehension kind e v cs =>
    suspendsFirst cs ||
      (kind != .generator && (e.suspends || suspendsOption v || suspendAnyClause true cs))
  | .assign _ e => e.suspends
  | .await _ => true

/-- Whether one of several expressions waits. -/
def suspendAny : List Expr → Bool
  | [] => false
  | e :: es => e.suspends || suspendAny es

/-- Whether an optional expression waits. -/
def suspendsOption : Option Expr → Bool
  | none => false
  | some e => e.suspends

/-- Whether an operand of a comparison waits. -/
def suspendAnyLink : List Link → Bool
  | [] => false
  | .mk _ e :: ls => e.suspends || suspendAnyLink ls

/-- Whether a default waits. -/
def suspendAnyParam : List Param → Bool
  | [] => false
  | .mk _ _ d :: ps => suspendsOption d || suspendAnyParam ps

/-- Whether an argument waits. -/
def suspendAnyArgument : List Argument → Bool
  | [] => false
  | .positional e :: as => e.suspends || suspendAnyArgument as
  | .keyword _ e :: as => e.suspends || suspendAnyArgument as
  | .spread e :: as => e.suspends || suspendAnyArgument as

/-- Whether a dictionary item waits. -/
def suspendAnyItem : List DictItem → Bool
  | [] => false
  | .entry k v :: is => k.suspends || v.suspends || suspendAnyItem is
  | .spread e :: is => e.suspends || suspendAnyItem is

/-- Whether the iterable of the first clause waits: it stands outside the comprehension. -/
def suspendsFirst : List Clause → Bool
  | [] => false
  | .mk _ _ i _ :: _ => i.suspends

/-- Whether clauses wait; the iterable of the first is not looked at. -/
def suspendAnyClause (first : Bool) : List Clause → Bool
  | [] => false
  | .mk asynchronous t i ifs :: cs =>
    asynchronous || t.suspends || (!first && i.suspends) || suspendAny ifs ||
      suspendAnyClause false cs

end

/-- Where an expression stands. -/
structure Standing where
  /-- Directly in a comprehension, where waiting is possible. -/
  inComprehension : Bool := false
  /-- In an iterable of a comprehension, where nothing is assigned. -/
  inIterable : Bool := false
  /-- The names that the comprehension around it iterates with. -/
  own : List String := []
  /-- Those of them that are bound by then. -/
  seen : List String := []
  /-- The names that the comprehensions further out iterate with by then. -/
  outer : List String := []

/-- Whether a name cannot be bound. A reserved word is a name only in the spelling of others. -/
def isReserved (name : String) : Bool := name == "__debug__" || Lexeme.keywords.contains name

/-- Whether no name stands twice, and none cannot be bound. -/
def areDistinct : List String → Bool
  | [] => true
  | n :: ns => !isReserved n && !ns.contains n && areDistinct ns

/-- Whether an element is starred. -/
def Expr.isStarred : Expr → Bool
  | .starred _ => true
  | _ => false

/-- The names of keyword arguments. -/
def keywordNames (args : List Argument) : List String :=
  args.filterMap fun
    | .keyword name _ => some name
    | _ => none

mutual

/-- Whether stars stand well in a target: never alone, and once among several. -/
def Expr.starsOnce : Expr → Bool
  | .display _ es => (es.filter (·.isStarred)).length ≤ 1 && starOnceAll es
  | .starred _ => false
  | .name id | .attribute _ id => !isReserved id
  | _ => true

/-- Whether stars stand well in the parts of a target. -/
def starOnceAll : List Expr → Bool
  | [] => true
  | .starred e :: es => e.starsOnce && starOnceAll es
  | e :: es => e.starsOnce && starOnceAll es

end

/-- The names in the targets of clauses. -/
def targetNames (cs : List Clause) : List String := cs.flatMap (·.target.names)

mutual

/-- Whether an expression is valid where it stands. -/
def Expr.isValid (c : Standing) : Expr → Bool
  | .name _ | .literal _ => true
  | .unary _ e => e.isValid c
  | .binary _ l r => l.isValid c && r.isValid c
  | .logical _ es => areValid c es
  | .compare e links => e.isValid c && areValidLinks c links
  | .ifElse t b o => t.isValid c && b.isValid c && o.isValid c
  | .lambda ps b =>
    areDistinct (ps.map (·.name)) && areValidParams c ps &&
      b.isValid { inIterable := c.inIterable }
  | .call f args =>
    f.isValid c && areDistinct (keywordNames args) && areValidArguments c args
  | .attribute e _ => e.isValid c
  | .subscript e i => e.isValid c && i.isValid c
  | .slice lo hi step => isValidOption c lo && isValidOption c hi && isValidOption c step
  | .display _ es => areValid c es
  | .dict items => areValidItems c items
  | .starred e => e.isValid c
  | .comprehension kind e v cs =>
    let waits := e.suspends || suspendsOption v || suspendAnyClause true cs
    let names := targetNames cs
    let inner : Standing :=
      { inComprehension := true
        inIterable := c.inIterable
        own := names
        seen := names
        outer := c.outer ++ c.seen }
    -- A generator waits by itself; any other comprehension needs something around it that may wait.
    (!waits || kind == .generator || c.inComprehension) &&
      isValidFirst { c with inIterable := true } cs &&
      areValidClauses true { inner with seen := [] } cs &&
      e.isValid inner && isValidOption inner v
  | .assign target e =>
    !c.inIterable && !isReserved target && !c.own.contains target &&
      !c.outer.contains target && e.isValid c
  | .await e => c.inComprehension && e.isValid c

/-- Whether expressions are valid. -/
def areValid (c : Standing) : List Expr → Bool
  | [] => true
  | e :: es => e.isValid c && areValid c es

/-- Whether an optional expression is valid. -/
def isValidOption (c : Standing) : Option Expr → Bool
  | none => true
  | some e => e.isValid c

/-- Whether operands of comparisons are valid. -/
def areValidLinks (c : Standing) : List Link → Bool
  | [] => true
  | .mk _ e :: ls => e.isValid c && areValidLinks c ls

/-- Whether defaults are valid. -/
def areValidParams (c : Standing) : List Param → Bool
  | [] => true
  | .mk _ _ d :: ps => isValidOption c d && areValidParams c ps

/-- Whether arguments are valid. -/
def areValidArguments (c : Standing) : List Argument → Bool
  | [] => true
  | .positional e :: as => e.isValid c && areValidArguments c as
  | .keyword _ e :: as => e.isValid c && areValidArguments c as
  | .spread e :: as => e.isValid c && areValidArguments c as

/-- Whether dictionary items are valid. -/
def areValidItems (c : Standing) : List DictItem → Bool
  | [] => true
  | .entry k v :: is => k.isValid c && v.isValid c && areValidItems c is
  | .spread e :: is => e.isValid c && areValidItems c is

/-- Whether the iterable of the first clause is valid: it stands outside the comprehension. -/
def isValidFirst (c : Standing) : List Clause → Bool
  | [] => true
  | .mk _ _ i _ :: _ => i.isValid c

/-- Whether clauses are valid; the iterable of the first is not looked at. -/
def areValidClauses (first : Bool) (c : Standing) : List Clause → Bool
  | [] => true
  | .mk _ t i ifs :: cs =>
    let here := { c with seen := c.seen ++ t.names }
    t.starsOnce && t.isValid c && (first || i.isValid { c with inIterable := true }) &&
      areValid here ifs && areValidClauses false here cs

end

end Curly
