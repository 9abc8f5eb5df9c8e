import Curly.Expr.Parser
import Curly.Expr.Redirect
import Curly.Fault
import Curly.Term
import Curly.Term.Shorthand

/-!
Reading terms: the texts that stand in the markers of a template become terms, in the scope of the
loops around them.
-/

namespace Curly

/-- Why a text is no term, or a tree no program. -/
inductive ExpressionCause
  | empty
  | invalidVariable (text : String)
  | invalidComplex (text : String)
  | unsupportedOperator (name : String)
  | invalidCondition (text : String)
  | invalidString (text : String)
  | notATree
  | unknownNode (typeName : String)
  | notCompilable (source : String)
  /-- A number has more digits than can be read, or written. -/
  | numberTooLong (digits : Option Nat)
  deriving DecidableEq, Inhabited

/-- What is wrong, and with which text. -/
structure ExpressionFailure where
  cause : ExpressionCause
  expression : Option String
  deriving DecidableEq, Inhabited

/-- What an error says. The details of what does not parse are left to a star. -/
def ExpressionFailure.message (e : ExpressionFailure) : String :=
  match e.cause with
  | .empty => "Empty variable expression"
  | .invalidVariable text => s!"Invalid variable expression: {text}"
  | .invalidComplex text => s!"Invalid complex expression: \"{text}\". Error: *"
  | .unsupportedOperator name => s!"Unsupported comparison operator: {name}"
  | .invalidCondition text => s!"Invalid condition expression: {text}"
  | .invalidString text => s!"Invalid string literal: {text}"
  | .notATree => "Invalid AST: expected Root node"
  | .unknownNode typeName => s!"Unknown node type: {typeName}"
  | .notCompilable source => s!"Compilation failed: *. Generated code:\n{source}"
  | .numberTooLong digits => digitsMessage digits

/-- Whether an error is the author's to mend, rather than a limit that was run into. -/
def ExpressionFailure.isUserError (e : ExpressionFailure) : Bool :=
  match e.cause with
  | .numberTooLong _ => false
  | _ => true

namespace Term

open Text Text.Unicode Form Shorthand

/-- What `this` stands for in a scope: the innermost item, or all data. -/
def thisName : Scope → String
  | [] => contextName
  | l :: _ => l.item

/-- What `@index` stands for in a scope. -/
def indexCode : Scope → List Char
  | [] => ['0']
  | l :: _ => l.index.toList

/-- Whether a text holds an integer that is too long to be written in decimal. -/
def hasLongInteger (s : List Char) : Bool :=
  match Lexeme.ofText s with
  | some ls => ls.any fun
    | .number (.int n) => Nat.pow 10 Reading.digitLimit ≤ n
    | _ => false
  | none => false

/-- Reads a free-form expression. -/
def readComplex (scope : Scope) (text : List Char) : Except ExpressionFailure Term :=
  let source := String.ofList text
  let code := strip (replaceArrows (replaceIndex (indexCode scope) text))
  match Expr.ofText? code with
  | none => .error ⟨.invalidComplex source, some source⟩
  | some e =>
    if hasLongInteger code then .error ⟨.numberTooLong none, none⟩
    else .ok (.complex source (e.redirect (thisName scope) scope.boundNames))

/-- Reads the expression of a variable, of the items of a loop, or of an operand. -/
def readAccess (scope : Scope) (text : List Char) : Except ExpressionFailure Term :=
  let s := strip text
  let source := String.ofList s
  if s.isEmpty then .error ⟨.empty, some (String.ofList text)⟩
  else if s = "this".toList then .ok (.this (thisName scope))
  else if isComplex s then readComplex scope s
  else if "this.".toList.isPrefixOf s then
    let rest := s.drop 5
    if isPath rest then .ok (.path (thisName scope) (String.ofList rest)) else readComplex scope s
  else if isPath s then .ok (.path contextName source)
  else .error ⟨.invalidVariable source, some source⟩

/-- A number with its sign as an expression; an infinite one is a name. -/
def signed (negative : Bool) (e : Expr) : Expr := if negative then .unary .minus e else e

/-- A floating-point literal: its text, and what this text stands for. -/
def ofDouble (x : Double) : Term :=
  let value := match x.abs with
    | .infinite _ => .name FloatLayout.value.infinity
    | y => .literal (.float y)
  .literal (FloatLayout.value.write x) (signed x.isNegative value)

/-- Whether a text is a number: a sign, digits with or without a point among or around them, an
exponent. -/
def isNumber (s : List Char) : Bool :=
  let (_, body) := Reading.sign s
  let whole := body.takeWhile isDecimal
  let rest := body.dropWhile isDecimal
  let (fraction, rest) := match rest with
    | '.' :: r => (r.takeWhile isDecimal, r.dropWhile isDecimal)
    | r => ([], r)
  let exponent := match rest with
    | [] => true
    | e :: r =>
      let (_, ds) := Reading.sign r
      (e == 'e' || e == 'E') && !ds.isEmpty && ds.all isDecimal
  !(whole.isEmpty && fraction.isEmpty) && exponent

/-- Whether a number has neither point nor exponent. -/
def isInteger (s : List Char) : Bool :=
  let (_, ds) := Reading.sign s
  !ds.isEmpty && ds.all isDecimal

/-- Reads a numeric operand, if the text is one. -/
def readNumber? (s : List Char) : Option (Except ExpressionFailure Term) :=
  if !isNumber s then none
  else if isInteger s then
    match Reading.int s with
    | .ok n => some (.ok (.literal (toString n) (signed (n < 0) (.literal (.int n.natAbs)))))
    | .tooLong digits => some (.error ⟨.numberTooLong (some digits), none⟩)
    | .malformed => none
  else (Reading.float? s).map fun x => .ok (ofDouble x)

/-- Whether a text stands in quotes. -/
def isQuoted (s : List Char) : Bool :=
  match s with
  | c :: _ :: _ => (c == '\'' || c == '"') && s.getLast? == some c
  | _ => false

/-- Reads a quoted operand, which must be one string. -/
def readQuoted (s : List Char) : Except ExpressionFailure Term :=
  let source := String.ofList s
  match Expr.ofText? s with
  | some (.literal (.str value marked)) => .ok (.literal source (.literal (.str value marked)))
  | _ => .error ⟨.invalidString source, some source⟩

/-- Reads an operand of a comparison: a string, a number, or an expression. -/
def readOperand (scope : Scope) (text : List Char) : Except ExpressionFailure Term :=
  let s := strip text
  if isQuoted s then readQuoted s
  else (readNumber? s).getD (readAccess scope s)

/-- Reads a condition. -/
def readCondition (scope : Scope) (text : List Char) : Except ExpressionFailure Term :=
  let s := strip text
  let source := String.ofList s
  match comparison? s with
  | some (op, left, right) =>
    match Operator.ofName? (String.ofList op) with
    | none => .error ⟨.unsupportedOperator (String.ofList op), some source⟩
    | some op => do
      let left ← readOperand scope left
      let right ← readOperand scope right
      return .comparison op left right
  | none =>
    if isComplex s || s = "this".toList || "this.".toList.isPrefixOf s || isPath s then
      .truthy <$> readAccess scope s
    else .error ⟨.invalidCondition source, some source⟩

end Term

end Curly
