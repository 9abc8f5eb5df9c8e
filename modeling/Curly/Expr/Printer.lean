import Curly.Expr
import Curly.Number.Layout
import Curly.Number.Reading
import Curly.Text.Quoted

/-!
The printer of expressions: one line of code, with the parentheses that the levels of precedence
ask for and no others, and quoted literals in their written form.
-/

namespace Curly

/-- How tightly an expression binds; what binds less tightly than its place asks for is put in
parentheses. -/
abbrev Level := Nat

namespace Level

/-- Assignment expressions. -/
def assign : Level := 1

/-- Tuples without parentheses. -/
def tuple : Level := 2

/-- Conditional expressions and lambdas: the level of a place that asks for nothing. -/
def test : Level := 4

/-- The operands of a conditional, and the connective `or`. -/
def or : Level := 5

/-- The connective `and`. -/
def and : Level := 6

/-- Negation. -/
def not : Level := 7

/-- Comparisons. -/
def compare : Level := 8

/-- What may be starred, and operands of comparisons. -/
def operand : Level := 9

/-- Signs. -/
def sign : Level := 15

/-- Powers. -/
def power : Level := 16

/-- Awaited expressions. -/
def await : Level := 17

/-- Names, literals, and what stands in brackets. -/
def atom : Level := 18

/-- The next tighter level, if there is one. -/
def next (l : Level) : Level := min (l + 1) atom

end Level

/-- The symbol of an operator before one operand. -/
def UnaryOp.symbol : UnaryOp → String
  | .plus => "+"
  | .minus => "-"
  | .invert => "~"
  | .not => "not"

/-- The symbol of an operator between two operands. -/
def BinaryOp.symbol : BinaryOp → String
  | .add => "+"
  | .sub => "-"
  | .mul => "*"
  | .matMul => "@"
  | .div => "/"
  | .floorDiv => "//"
  | .mod => "%"
  | .pow => "**"
  | .shiftLeft => "<<"
  | .shiftRight => ">>"
  | .bitAnd => "&"
  | .bitXor => "^"
  | .bitOr => "|"

/-- The level of an operator between two operands. -/
def BinaryOp.level : BinaryOp → Level
  | .bitOr => Level.operand
  | .bitXor => 10
  | .bitAnd => 11
  | .shiftLeft | .shiftRight => 12
  | .add | .sub => 13
  | .mul | .matMul | .div | .floorDiv | .mod => 14
  | .pow => Level.power

/-- The word of a connective. -/
def LogicalOp.symbol : LogicalOp → String
  | .and => "and"
  | .or => "or"

/-- The level of a connective. -/
def LogicalOp.level : LogicalOp → Level
  | .and => Level.and
  | .or => Level.or

/-- The symbol of a comparison. -/
def CompareOp.symbol : CompareOp → String
  | .eq => "=="
  | .ne => "!="
  | .lt => "<"
  | .le => "<="
  | .gt => ">"
  | .ge => ">="
  | .same => "is"
  | .notSame => "is not"
  | .within => "in"
  | .notWithin => "not in"

/-- The brackets around a comprehension of a kind. -/
def ComprehensionKind.brackets : ComprehensionKind → String × String
  | .list => ("[", "]")
  | .generator => ("(", ")")
  | .set | .dict => ("\x7b", "\x7d")

/-- The code of a literal. -/
def Literal.code : Literal → String
  | .none => "None"
  | .bool value => if value then "True" else "False"
  | .ellipsis => "..."
  | .int value => toString value
  | .float value => FloatLayout.code.write value
  | .imaginary value => FloatLayout.imaginary.write value ++ "j"
  | .str value marked => (if marked then "u" else "") ++ Text.Quoted.ofString value
  | .bytes value => String.ofList (Text.Quoted.encodeBytes value)

/-- A literal that is an integer, for which an attribute needs a blank before its dot. -/
def Literal.isInteger : Literal → Bool
  | .int _ | .bool _ => true
  | _ => false

/-- Code in parentheses if there is need. -/
def parens (needed : Bool) (code : String) : String :=
  if needed then "(" ++ code ++ ")" else code

/-- Codes with commas between them. -/
def commas : List String → String := String.intercalate ", "

/-- Codes of the elements of a tuple: a single one has a comma after it. -/
def tupleItems : List String → String
  | [code] => code ++ ","
  | codes => commas codes

/-- Parameters with the slash after the positional-only ones and the star before the ones that
can only be named, from a list of kinds and codes. -/
def signature (params : List (ParamKind × String)) : String :=
  let only := params.filter (·.1 == .positionalOnly) |>.map (·.2)
  let positional := params.filter (·.1 == .positional) |>.map (·.2)
  let variadic := params.filter (·.1 == .variadic) |>.map ("*" ++ ·.2)
  let named := params.filter (·.1 == .keywordOnly) |>.map (·.2)
  let rest := params.filter (·.1 == .keywords) |>.map ("**" ++ ·.2)
  let slash := if only.isEmpty then [] else ["/"]
  let star := if variadic.isEmpty && !named.isEmpty then ["*"] else variadic
  commas (only ++ slash ++ positional ++ star ++ named ++ rest)

mutual

/-- The code of an expression in a place that asks for a level. -/
def Expr.printAt (level : Level) : Expr → String
  | .name id => id
  | .literal value => value.code
  | .unary op e =>
    match op with
    | .not => parens (Level.not < level) ("not " ++ e.printAt Level.not)
    | op => parens (Level.sign < level) (op.symbol ++ e.printAt Level.sign)
  | .binary op l r =>
    let own := op.level
    -- A power groups to the right, every other operator to the left.
    let (left, right) := if op = .pow then (own.next, own) else (own, own.next)
    parens (own < level) (l.printAt left ++ " " ++ op.symbol ++ " " ++ r.printAt right)
  | .logical op es =>
    parens (op.level < level)
      (String.intercalate (" " ++ op.symbol ++ " ") (printRising op.level.next es))
  | .compare e links =>
    parens (Level.compare < level) (e.printAt Level.operand ++ printLinks links)
  | .ifElse t b o =>
    parens (Level.test < level)
      (b.printAt Level.or ++ " if " ++ t.printAt Level.or ++ " else " ++ o.printAt Level.test)
  | .lambda ps b =>
    let params := signature (printParams ps)
    parens (Level.test < level)
      ("lambda" ++ (if ps.isEmpty then "" else " " ++ params) ++ ": " ++ b.printAt Level.test)
  | .call f args => f.printAt Level.atom ++ "(" ++ commas (printArguments args) ++ ")"
  | .attribute e name =>
    -- Without the blank the dot would continue the number.
    let blank := match e with
      | .literal value => value.isInteger
      | _ => false
    e.printAt Level.atom ++ (if blank then " ." else ".") ++ name
  | .subscript e i =>
    -- A tuple as an index needs no parentheses of its own.
    let index := match i with
      | .display .tuple (e :: es) => tupleItems (printAll (e :: es))
      | i => i.printAt Level.test
    e.printAt Level.atom ++ "[" ++ index ++ "]"
  | .slice lo hi step =>
    printOption lo ++ ":" ++ printOption hi ++
      (match step with
        | none => ""
        | some e => ":" ++ e.printAt Level.test)
  | .display kind es =>
    match kind with
    | .tuple => parens (es.isEmpty || Level.tuple < level) (tupleItems (printAll es))
    | .list => "[" ++ commas (printAll es) ++ "]"
    | .set => "\x7b" ++ commas (printAll es) ++ "\x7d"
  | .dict items => "\x7b" ++ commas (printItems items) ++ "\x7d"
  | .starred e => "*" ++ e.printAt Level.operand
  | .comprehension kind e v cs =>
    let value := match v with
      | none => ""
      | some e => ": " ++ e.printAt Level.test
    kind.brackets.1 ++ e.printAt Level.test ++ value ++ printClauses cs ++ kind.brackets.2
  | .assign target e =>
    parens (Level.assign < level) (target ++ " := " ++ e.printAt Level.atom)
  | .await e => parens (Level.await < level) ("await " ++ e.printAt Level.atom)

/-- The codes of expressions in places that ask for nothing. -/
def printAll : List Expr → List String
  | [] => []
  | e :: es => e.printAt Level.test :: printAll es

/-- The codes of the operands of a connective: each stands a level above the one before. -/
def printRising (level : Level) : List Expr → List String
  | [] => []
  | e :: es => e.printAt level :: printRising level.next es

/-- The code of an expression that may be missing. -/
def printOption : Option Expr → String
  | none => ""
  | some e => e.printAt Level.test

/-- The code of the links of a chain of comparisons. -/
def printLinks : List Link → String
  | [] => ""
  | .mk op e :: ls => " " ++ op.symbol ++ " " ++ e.printAt Level.operand ++ printLinks ls

/-- The kinds and codes of parameters. -/
def printParams : List Param → List (ParamKind × String)
  | [] => []
  | .mk kind name d :: ps =>
    let fallback := match d with
      | none => ""
      | some e => "=" ++ e.printAt Level.test
    (kind, name ++ fallback) :: printParams ps

/-- The codes of arguments. -/
def printArguments : List Argument → List String
  | [] => []
  | .positional e :: as => e.printAt Level.test :: printArguments as
  | .keyword name e :: as => (name ++ "=" ++ e.printAt Level.test) :: printArguments as
  | .spread e :: as => ("**" ++ e.printAt Level.test) :: printArguments as

/-- The codes of dictionary items. -/
def printItems : List DictItem → List String
  | [] => []
  | .entry k v :: is => (k.printAt Level.test ++ ": " ++ v.printAt Level.test) :: printItems is
  | .spread e :: is => ("**" ++ e.printAt Level.operand) :: printItems is

/-- The code of the clauses of a comprehension. -/
def printClauses : List Clause → String
  | [] => ""
  | .mk asynchronous t i ifs :: cs =>
    (if asynchronous then " async for " else " for ") ++ t.printAt Level.tuple ++ " in " ++
      i.printAt Level.or ++ printTests ifs ++ printClauses cs

/-- The code of the tests of a clause. -/
def printTests : List Expr → String
  | [] => ""
  | e :: es => " if " ++ e.printAt Level.or ++ printTests es

end

/-- The code of an expression. -/
def Expr.print (e : Expr) : String := e.printAt Level.test

end Curly
