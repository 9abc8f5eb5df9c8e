import Curly.Expr.Lexer
import Curly.Expr.Validity
import Curly.Program.Generation
import Curly.Token.Lexer
import Curly.Tree.Parser

/-!
Compilation: the check that a generated program can run, and the way from the text of a template to
its program.

Every line of the source must hold together by itself, its brackets matched and not too deep; all
expressions must be valid; loops and lines must not be nested too deep.
-/

namespace Curly

/-- How deep loops may be nested. -/
def loopLimit : Nat := 20

/-- How deep lines may be indented, in levels. -/
def indentLimit : Nat := 99

namespace Term

/-- Whether the free-form expressions of a term are valid. -/
def isValid : Term → Bool
  | .complex _ body => body.isValid {}
  | .comparison _ l r => l.isValid && r.isValid
  | .truthy e => e.isValid
  | .this _ | .path .. | .literal .. => true

end Term

/-- Whether the expression of a piece of output is valid. -/
def Piece.isValid : Piece → Bool
  | .text _ => true
  | .escaped term | .plain term => term.isValid

namespace Stmt

mutual

/-- Whether a statement can run at a level of indentation and inside a number of loops. -/
def isValid (level loops : Nat) : Stmt → Bool
  | .emit pieces => pieces.all Piece.isValid
  | .branch condition body => condition.isValid && areValid (level + 1) loops body
  | .bind _ value => value.isValid
  | .guard _ body => areValid (level + 1) loops body
  | .loop _ body => loops < loopLimit && areValid (level + 1) (loops + 1) body
  | .pass => true

/-- Whether the statements of a block can run. -/
def areValid (level loops : Nat) : List Stmt → Bool
  | [] => true
  | s :: ss => level ≤ indentLimit && s.isValid level loops && areValid level loops ss

end

end Stmt

/-- Whether a line holds together by itself. -/
def ListingStep.isWhole : ListingStep → Bool
  | .line text => (Lexeme.ofText text.toList).isSome
  | .indent | .dedent => true

/-- Whether a program can run. -/
def Program.isValid (p : Program) : Bool :=
  Stmt.areValid 1 0 p.body && p.steps.all ListingStep.isWhole

/-- The program of a tree, if it can run. -/
def Program.compile (t : Tree) : Except ExpressionFailure Program := do
  let p ← Program.ofTree t
  if p.isValid then return p else throw ⟨.notCompilable p.source, none⟩

/-- Why a template has no program, by the stage that refused it. -/
inductive TemplateFailure
  | syntactic (failure : SyntaxFailure)
  | structural (failure : StructureFailure)
  | expression (failure : ExpressionFailure)
  deriving DecidableEq, Inhabited

/-- What is said of a template that has no program. -/
def TemplateFailure.message : TemplateFailure → String
  | .syntactic e => e.message
  | .structural e => e.message
  | .expression e => e.message

/-- The tree of a template. -/
def Tree.ofTemplate (template : String) : Except TemplateFailure Tree := do
  let tokens ← (tokenize template).mapError .syntactic
  (Tree.ofTokens tokens).mapError .structural

/-- The program of a template. -/
def Program.ofTemplate (template : String) : Except TemplateFailure Program := do
  let tree ← Tree.ofTemplate template
  (Program.compile tree).mapError .expression

end Curly
