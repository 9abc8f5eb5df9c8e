import Curly.Expr.Printer
import Curly.Helper
import Curly.Scope

/-!
Terms: what the expressions and conditions of a template mean, before they become code. Each has
its code, and the expression that the code stands for.
-/

namespace Curly

/-- The operators of the comparison form. -/
inductive Operator
  | eq
  | neq
  | gt
  | gte
  | lt
  | lte
  | and
  | or
  deriving DecidableEq, Inhabited

namespace Operator

/-- Every operator. -/
def all : List Operator := [.eq, .neq, .gt, .gte, .lt, .lte, .and, .or]

/-- The word of an operator. -/
def name : Operator → String
  | .eq => "eq"
  | .neq => "neq"
  | .gt => "gt"
  | .gte => "gte"
  | .lt => "lt"
  | .lte => "lte"
  | .and => "and"
  | .or => "or"

/-- The operator with a word. -/
def ofName? (name : String) : Option Operator := all.find? (·.name == name)

end Operator

/-- Terms. A `path` is looked up from a variable of the generated code, a `literal` is written as
its author wrote it, and `truthy` is a condition that is no comparison. -/
inductive Term
  | this (binding : String)
  | path (base dotted : String)
  | complex (source : String) (body : Expr)
  | literal (code : String) (value : Expr)
  | comparison (op : Operator) (left right : Term)
  | truthy (operand : Term)
  deriving Inhabited

namespace Term

/-- The call of a function in code. -/
def callCode (function : String) (args : List String) : String :=
  function ++ "(" ++ commas args ++ ")"

/-- The code of a term. -/
def code : Term → String
  | .this binding => binding
  | .path base dotted => callCode Helper.lookup.name [base, Text.Quoted.ofString dotted]
  | .complex _ body => "(" ++ body.print ++ ")"
  | .literal text _ => text
  | .comparison op l r =>
    match op with
    | .eq => callCode Helper.strictEqual.name [l.code, r.code]
    | .neq => "(not " ++ callCode Helper.strictEqual.name [l.code, r.code] ++ ")"
    | .and => "(" ++ l.code ++ " and " ++ r.code ++ ")"
    | .or => "(" ++ l.code ++ " or " ++ r.code ++ ")"
    | op => callCode Helper.compare.name [Text.Quoted.ofString op.name, l.code, r.code]
  | .truthy e => callCode "bool" [e.code]

/-- The call of a helper. -/
def call (h : Helper) (args : List Expr) : Expr := .apply (.name h.name) args

/-- The expression that the code of a term stands for. -/
def expr : Term → Expr
  | .this binding => .name binding
  | .path base dotted => call .lookup [.name base, .str dotted]
  | .complex _ body => body
  | .literal _ value => value
  | .comparison op l r =>
    match op with
    | .eq => call .strictEqual [l.expr, r.expr]
    | .neq => .unary .not (call .strictEqual [l.expr, r.expr])
    | .and => .logical .and [l.expr, r.expr]
    | .or => .logical .or [l.expr, r.expr]
    | op => call .compare [.str op.name, l.expr, r.expr]
  | .truthy e => .apply (.name "bool") [e.expr]

end Term

end Curly
