import Curly.Listing
import Curly.Term

/-!
Programs: what a template becomes. A program is the body of one function of the data, made of
statements that gather pieces of output; its source is a listing of them.
-/

namespace Curly

/-- A piece of output: text of the template, or the value of a term, escaped or as it is. -/
inductive Piece
  | text (value : String)
  | escaped (term : Term)
  | plain (term : Term)
  deriving Inhabited

namespace Piece

/-- The code of a piece. -/
def code : Piece → String
  | .text value => Text.Quoted.ofString value
  | .escaped term => Term.callCode Helper.escape.name [term.code]
  | .plain term => Term.callCode Helper.stringify.name [term.code]

/-- The expression that the code of a piece stands for. -/
def expr : Piece → Expr
  | .text value => .str value
  | .escaped term => Term.call .escape [term.expr]
  | .plain term => Term.call .stringify [term.expr]

end Piece

/-- Statements. A loop is three of them: its items are bound to a name, which guards the loop
against what is no array. -/
inductive Stmt
  | emit (pieces : List Piece)
  | branch (condition : Term) (body : List Stmt)
  | bind (name : String) (value : Term)
  | guard (items : String) (body : List Stmt)
  | loop (names : LoopNames) (body : List Stmt)
  | pass
  deriving Inhabited

namespace Stmt

/-- The function that counts the items of a loop. -/
def counterName : String := "enumerate"

/-- The code of an output statement. -/
def emitCode : List Piece → String
  | [p] => Term.callCode appendName [p.code]
  | ps => Term.callCode extendName ["[" ++ commas (ps.map Piece.code) ++ "]"]

/-- The expression that the code of an output statement stands for. -/
def emitExpr : List Piece → Expr
  | [p] => .apply (.name appendName) [p.expr]
  | ps => .apply (.name extendName) [.display .list (ps.map Piece.expr)]

/-- The test of a guard. -/
def guardExpr (items : String) : Expr := Term.call .isArray [.name items]

/-- What a loop goes through. -/
def loopExpr (names : LoopNames) : Expr := .apply (.name counterName) [.name names.items]

mutual

/-- A statement in a listing. -/
def steps : Stmt → List ListingStep
  | .emit pieces => [.line (emitCode pieces)]
  | .branch condition body =>
    .line ("if " ++ condition.code ++ ":") :: .indent :: stepsOfAll body ++ [.dedent]
  | .bind name value => [.line (name ++ " = " ++ value.code)]
  | .guard items body =>
    .line ("if " ++ Term.callCode Helper.isArray.name [items] ++ ":") :: .indent ::
      stepsOfAll body ++ [.dedent]
  | .loop names body =>
    .line ("for " ++ names.index ++ ", " ++ names.item ++ " in " ++
      Term.callCode counterName [names.items] ++ ":") :: .indent ::
      stepsOfAll body ++ [.dedent]
  | .pass => [.line "pass"]

/-- Statements in a listing. -/
def stepsOfAll : List Stmt → List ListingStep
  | [] => []
  | s :: ss => s.steps ++ stepsOfAll ss

end

end Stmt

/-- A program. -/
structure Program where
  body : List Stmt
  deriving Inhabited

namespace Program

/-- A program as a listing: the function's head, its variables, its body and its result. -/
def steps (p : Program) : List ListingStep :=
  .line s!"def render({contextName}):" :: .indent ::
    .line s!"{resultName} = []" ::
    .line s!"{appendName} = {resultName}.append" ::
    .line s!"{extendName} = {resultName}.extend" ::
    Stmt.stepsOfAll p.body ++ [.line s!"return ''.join({resultName})", .dedent]

/-- The source of a program. -/
def source (p : Program) : String := ((Listing.run {} p.steps).text)

end Program

end Curly
