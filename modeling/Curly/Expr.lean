import Curly.Number.Double

/-!
The expression language: what stands in a complex expression of a template, and what generated
code is made of.
-/

namespace Curly

/-- Literals. Numbers carry no sign. A text literal remembers whether it was marked with a `u`. -/
inductive Literal
  | none
  | bool (value : Bool)
  | ellipsis
  | int (value : Nat)
  | float (value : Double)
  | imaginary (value : Double)
  | str (value : String) (marked : Bool)
  | bytes (value : List UInt8)
  deriving DecidableEq, Inhabited

/-- Operators before one operand. -/
inductive UnaryOp
  | plus
  | minus
  | invert
  | not
  deriving DecidableEq, Inhabited

/-- Operators between two operands. -/
inductive BinaryOp
  | add
  | sub
  | mul
  | matMul
  | div
  | floorDiv
  | mod
  | pow
  | shiftLeft
  | shiftRight
  | bitAnd
  | bitXor
  | bitOr
  deriving DecidableEq, Inhabited

/-- The two logical connectives. -/
inductive LogicalOp
  | and
  | or
  deriving DecidableEq, Inhabited

/-- Comparison operators. -/
inductive CompareOp
  | eq
  | ne
  | lt
  | le
  | gt
  | ge
  | same
  | notSame
  | within
  | notWithin
  deriving DecidableEq, Inhabited

/-- Displays: how a list of elements is written. -/
inductive DisplayKind
  | tuple
  | list
  | set
  deriving DecidableEq, Inhabited

/-- What a comprehension makes. -/
inductive ComprehensionKind
  | list
  | set
  | dict
  | generator
  deriving DecidableEq, Inhabited

/-- How a parameter takes its argument. -/
inductive ParamKind
  | positionalOnly
  | positional
  | variadic
  | keywordOnly
  | keywords
  deriving DecidableEq, Inhabited

mutual

/-- Expressions. -/
inductive Expr
  | name (id : String)
  | literal (value : Literal)
  | unary (op : UnaryOp) (operand : Expr)
  | binary (op : BinaryOp) (left right : Expr)
  | logical (op : LogicalOp) (operands : List Expr)
  | compare (first : Expr) (links : List Link)
  | ifElse (test body orelse : Expr)
  | lambda (params : List Param) (body : Expr)
  | call (function : Expr) (args : List Argument)
  | attribute (value : Expr) (name : String)
  | subscript (value index : Expr)
  | slice (lower upper step : Option Expr)
  | display (kind : DisplayKind) (elements : List Expr)
  | dict (items : List DictItem)
  | starred (value : Expr)
  | comprehension (kind : ComprehensionKind) (element : Expr) (value : Option Expr)
      (clauses : List Clause)
  | assign (target : String) (value : Expr)
  | await (value : Expr)

/-- A link of a chain of comparisons. -/
inductive Link
  | mk (op : CompareOp) (operand : Expr)

/-- A parameter of a lambda, in the order of declaration. -/
inductive Param
  | mk (kind : ParamKind) (name : String) (fallback : Option Expr)

/-- An argument of a call: positional ones first, perhaps starred. -/
inductive Argument
  | positional (value : Expr)
  | keyword (name : String) (value : Expr)
  | spread (value : Expr)

/-- An entry of a dictionary display, or a dictionary whose entries are taken over. -/
inductive DictItem
  | entry (key value : Expr)
  | spread (value : Expr)

/-- A clause of a comprehension: what its items are bound to, where they come from, and what they
are tested for. -/
inductive Clause
  | mk (asynchronous : Bool) (target iterable : Expr) (tests : List Expr)

end

instance : Inhabited Expr := ⟨.literal .none⟩

/-- The kind of a parameter. -/
def Param.kind : Param → ParamKind
  | .mk kind _ _ => kind

/-- The name of a parameter. -/
def Param.name : Param → String
  | .mk _ name _ => name

/-- The default of a parameter. -/
def Param.fallback : Param → Option Expr
  | .mk _ _ fallback => fallback

/-- What the items of a clause are bound to. -/
def Clause.target : Clause → Expr
  | .mk _ target _ _ => target

/-- Whether a clause waits for its items. -/
def Clause.asynchronous : Clause → Bool
  | .mk asynchronous _ _ _ => asynchronous

/-- An unmarked text literal. -/
def Expr.str (s : String) : Expr := .literal (.str s false)

/-- A call with positional arguments. -/
def Expr.apply (f : Expr) (args : List Expr) : Expr := .call f (args.map .positional)

mutual

/-- Every name that an expression mentions as a variable, read or assigned. -/
def Expr.names : Expr → List String
  | .name id => [id]
  | .literal _ => []
  | .unary _ e => e.names
  | .binary _ l r => l.names ++ r.names
  | .logical _ es => namesOfExprs es
  | .compare e links => e.names ++ namesOfLinks links
  | .ifElse t b o => t.names ++ b.names ++ o.names
  | .lambda ps b => namesOfParams ps ++ b.names
  | .call f args => f.names ++ namesOfArguments args
  | .attribute e _ => e.names
  | .subscript e i => e.names ++ i.names
  | .slice lo hi step => namesOfOption lo ++ namesOfOption hi ++ namesOfOption step
  | .display _ es => namesOfExprs es
  | .dict items => namesOfItems items
  | .starred e => e.names
  | .comprehension _ e v cs => e.names ++ namesOfOption v ++ namesOfClauses cs
  | .assign target e => target :: e.names
  | .await e => e.names

/-- `Expr.names` of several expressions. -/
def namesOfExprs : List Expr → List String
  | [] => []
  | e :: es => e.names ++ namesOfExprs es

/-- `Expr.names` of an optional expression. -/
def namesOfOption : Option Expr → List String
  | none => []
  | some e => e.names

/-- `Expr.names` of comparison links. -/
def namesOfLinks : List Link → List String
  | [] => []
  | .mk _ e :: ls => e.names ++ namesOfLinks ls

/-- `Expr.names` of defaults. -/
def namesOfParams : List Param → List String
  | [] => []
  | .mk _ _ d :: ps => namesOfOption d ++ namesOfParams ps

/-- `Expr.names` of arguments. -/
def namesOfArguments : List Argument → List String
  | [] => []
  | .positional e :: as => e.names ++ namesOfArguments as
  | .keyword _ e :: as => e.names ++ namesOfArguments as
  | .spread e :: as => e.names ++ namesOfArguments as

/-- `Expr.names` of dictionary items. -/
def namesOfItems : List DictItem → List String
  | [] => []
  | .entry k v :: is => k.names ++ v.names ++ namesOfItems is
  | .spread e :: is => e.names ++ namesOfItems is

/-- `Expr.names` of comprehension clauses. -/
def namesOfClauses : List Clause → List String
  | [] => []
  | .mk _ t i ifs :: cs => t.names ++ i.names ++ namesOfExprs ifs ++ namesOfClauses cs

end

mutual

/-- The names that assignment expressions bind in the function that an expression stands in: those
of lambdas inside are bound there, those of comprehensions pass through. -/
def Expr.assigned : Expr → List String
  | .name _ | .literal _ => []
  | .unary _ e => e.assigned
  | .binary _ l r => l.assigned ++ r.assigned
  | .logical _ es => assignedOfExprs es
  | .compare e links => e.assigned ++ assignedOfLinks links
  | .ifElse t b o => t.assigned ++ b.assigned ++ o.assigned
  | .lambda ps _ => assignedOfParams ps
  | .call f args => f.assigned ++ assignedOfArguments args
  | .attribute e _ => e.assigned
  | .subscript e i => e.assigned ++ i.assigned
  | .slice lo hi step => assignedOfOption lo ++ assignedOfOption hi ++ assignedOfOption step
  | .display _ es => assignedOfExprs es
  | .dict items => assignedOfItems items
  | .starred e => e.assigned
  | .comprehension _ e v cs => e.assigned ++ assignedOfOption v ++ assignedOfClauses cs
  | .assign target e => target :: e.assigned
  | .await e => e.assigned

/-- `Expr.assigned` of several expressions. -/
def assignedOfExprs : List Expr → List String
  | [] => []
  | e :: es => e.assigned ++ assignedOfExprs es

/-- `Expr.assigned` of an optional expression. -/
def assignedOfOption : Option Expr → List String
  | none => []
  | some e => e.assigned

/-- `Expr.assigned` of comparison links. -/
def assignedOfLinks : List Link → List String
  | [] => []
  | .mk _ e :: ls => e.assigned ++ assignedOfLinks ls

/-- `Expr.assigned` of defaults. -/
def assignedOfParams : List Param → List String
  | [] => []
  | .mk _ _ d :: ps => assignedOfOption d ++ assignedOfParams ps

/-- `Expr.assigned` of arguments. -/
def assignedOfArguments : List Argument → List String
  | [] => []
  | .positional e :: as => e.assigned ++ assignedOfArguments as
  | .keyword _ e :: as => e.assigned ++ assignedOfArguments as
  | .spread e :: as => e.assigned ++ assignedOfArguments as

/-- `Expr.assigned` of dictionary items. -/
def assignedOfItems : List DictItem → List String
  | [] => []
  | .entry k v :: is => k.assigned ++ v.assigned ++ assignedOfItems is
  | .spread e :: is => e.assigned ++ assignedOfItems is

/-- `Expr.assigned` of comprehension clauses. -/
def assignedOfClauses : List Clause → List String
  | [] => []
  | .mk _ t i ifs :: cs =>
    t.assigned ++ i.assigned ++ assignedOfExprs ifs ++ assignedOfClauses cs

end

mutual

/-- The names that a target binds: those of nested tuples and lists, but none inside attributes
and subscripts. -/
def Expr.bound : Expr → List String
  | .name id => [id]
  | .display _ es => boundOfExprs es
  | .starred e => e.bound
  | _ => []

/-- `Expr.bound` of several targets. -/
def boundOfExprs : List Expr → List String
  | [] => []
  | e :: es => e.bound ++ boundOfExprs es

end

end Curly
