import Curly.Eval.Expr
import Curly.Program

/-!
Running a program: its statements are done one after the other on the variables of one function, and
the pieces of output are joined at the end.

The output is a variable like the others, and so are the two methods that add to it. An expression
may put another value in their place; what then comes of the pieces is up to that value.
-/

namespace Curly

namespace Piece

/-- The names that the expression of a piece of output assigns. -/
def assigned (p : Piece) : List String := p.expr.assigned

end Piece

mutual

/-- The variables that a statement sets. -/
def Stmt.varNames : Stmt → List String
  | .emit pieces => pieces.flatMap Piece.assigned
  | .branch condition body => condition.expr.assigned ++ varNamesOfAll body
  | .bind name value => name :: value.expr.assigned
  | .guard _ body => varNamesOfAll body
  | .loop names body => names.all ++ varNamesOfAll body
  | .pass => []

/-- The variables that statements set. -/
def varNamesOfAll : List Stmt → List String
  | [] => []
  | s :: ss => s.varNames ++ varNamesOfAll ss

end

namespace Program

/-- The frame of the generated function. -/
def mainFrame : Nat := 0

/-- The variables that hold the output and the methods that add to it. -/
def outputVariables : Frame :=
  [(resultName, .output), (appendName, .method .output "append"),
    (extendName, .method .output "extend")]

/-- The variables of the generated function. -/
def varNames (p : Program) : List String :=
  contextName :: outputVariables.map (·.1) ++ varNamesOfAll p.body

/-- Where the expressions of a program are evaluated. -/
def env (p : Program) : Env := ⟨[⟨mainFrame, p.varNames, true⟩], "render.<locals>."⟩

/-- The machine on which a program starts: its one parameter is bound to the data, and nothing has
been put out. -/
def start (context : Value) : Machine where
  frames := #[(contextName, context) :: outputVariables]
  output := some []

mutual

/-- Does a statement. -/
def exec (h : Hooks) (env : Env) : Stmt → Eval Unit
  | .emit pieces => do
    let _ ← Eval.expr h env (Stmt.emitExpr pieces)
  | .branch condition body => do
    if (← Eval.expr h env condition.expr).isTrue then execAll h env body
  | .bind name value => do
    let v ← Eval.expr h env value.expr
    Eval.setVariable mainFrame name v
  | .guard items body => do
    if (← Eval.expr h env (Stmt.guardExpr items)).isTrue then execAll h env body
  | .loop names body => do
    let counter ← Eval.load env Stmt.counterName
    let items ← Eval.load env names.items
    match counter, items.items? with
    -- The usual counter over an array: its rounds are counted here. A context may hold another
    -- value under the name of the counter, and that one is called.
    | .type "enumerate", some vs =>
      let round (i : Nat) (v : Value) : Eval Nat := do
        Eval.setVariable mainFrame names.index (.int i)
        Eval.setVariable mainFrame names.item v
        execAll h env body
        return i + 1
      let _ ← vs.foldlM round 0
    | counter, _ =>
      let counted ← h.call counter (.ofList [items])
      Eval.fold h counted () fun _ v => do
        let targets := Expr.display .tuple [.name names.index, .name names.item]
        Eval.bind h env mainFrame targets v
        return .yield (← execAll h env body)
  | .pass => return

/-- Does statements in turn. -/
def execAll (h : Hooks) (env : Env) : List Stmt → Eval Unit
  | [] => return
  | s :: ss => do
    exec h env s
    execAll h env ss

end

/-- Joins the pieces of output. -/
def result (h : Hooks) (env : Env) : Eval String := do
  let v ← Eval.load env resultName
  let pieces ← Eval.starredElements h (fun _ => .notJoinable) v
  return String.ofList (← Eval.ofExcept (Value.joinTexts [] pieces))

/-- The text that a program makes of the data. -/
def run (p : Program) (context : Value) : Except Fault String := do
  let h := Eval.hooks Eval.depthLimit
  let action : Eval String := do
    execAll h p.env p.body
    result h p.env
  return (← action.run (start context)).1

end Program

end Curly
