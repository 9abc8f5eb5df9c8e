import Curly.Program.Generation
import Curly.Proofs.Eval.Oblivious

/-!
The meaning of a tree: what it says about data, read off the nodes one by one in the order of the
document, without a program.

A loop binds its names in its own nodes only, anew for every item, so a place has the variables of
the loops around it and the data, and no others. Neither the variables of a program nor the output
are there to be read: an expression that asks for one of them stops at an unbound variable.
-/

namespace Curly

/-- The variables of one round of a loop. -/
def LoopNames.bindings (l : LoopNames) (items : Value) (index : Nat) (item : Value) : Frame :=
  [(l.item, item), (l.index, .int index), (l.items, items)]

namespace Meaning

/-- The value of an expression at a place with some variables. -/
def value (h : Hooks) (env : Env) (vars : Frame) (e : Expr) : Eval Value := do
  modify fun m => { m with frames := m.frames.setIfInBounds Program.mainFrame vars }
  Eval.expr h env e

/-- What a text that is computed from the value of an expression says. -/
def piece (h : Hooks) (env : Env) (toText : Value → Except Fault String) (t : Term)
    (vars : Frame) : Eval (List String) := do
  let v ← value h env vars t.expr
  return [← Eval.ofExcept (toText v)]

mutual

/-- What a node says at a place with some variables. -/
def node (h : Hooks) (env : Env) (scope : Scope) : Node → Generation (Frame → Eval (List String))
  | .text text => return fun _ => return [text]
  | .variable expression => do
    let t ← Term.readAccess scope expression.toList
    return piece h env Value.escaped t
  | .raw expression => do
    let t ← Term.readAccess scope expression.toList
    return piece h env Value.stringify t
  | .cond condition children => do
    let condition ← Term.readCondition scope condition.toList
    let body ← nodes h env scope children
    return fun vars => do
      if (← value h env vars condition.expr).isTrue then body vars else return []
  | .each items children => do
    let items ← Term.readAccess scope items.toList
    let names ← Generation.nextLoop
    let body ← nodes h env (names :: scope) children
    return fun vars => do
      let v ← value h env vars items.expr
      match v.items? with
      | none => return []
      | some vs =>
        let rounds ← vs.zipIdx.mapM fun (w, i) => body (names.bindings v i w ++ vars)
        return rounds.flatten
  | .foreign typeName => throw ⟨.unknownNode typeName, none⟩

/-- What nodes say, one after the other. -/
def nodes (h : Hooks) (env : Env) (scope : Scope) :
    List Node → Generation (Frame → Eval (List String))
  | [] => return fun _ => return []
  | n :: ns => do
    let first ← node h env scope n
    let rest ← nodes h env scope ns
    return fun vars => do return (← first vars) ++ (← rest vars)

end

/-- The machine on which a tree is read: there is a frame for the variables of a place. -/
def start : Machine where
  frames := #[[]]

/-- What is said about data. -/
def about (meaning : Frame → Eval (List String)) (context : Value) : Except Fault String := do
  let (texts, _) ← (meaning [(contextName, context)]).run start
  return String.join texts

end Meaning

/-- The hooks with which programs are run. -/
abbrev Program.hooks : Hooks := Eval.hooks Eval.depthLimit

/-- What a tree says about data, the names of an environment being names of variables. -/
def Tree.meaning (env : Env) (t : Tree) :
    Except ExpressionFailure (Value → Except Fault String) := do
  let (meaning, _) ← (Meaning.nodes Program.hooks env [] t.children).run {}
  return Meaning.about meaning

/-- Whether something ends because a variable of a program is asked for where it is not bound. -/
def Program.IsLeak (p : Program) (r : Except Fault String) : Prop :=
  ∃ f id, r = .error f ∧ f.unbound? = some id ∧ id ∈ p.varNames

mutual

/-- The names that the expressions of a statement assign. -/
def Stmt.assigned : Stmt → List String
  | .emit pieces => pieces.flatMap Piece.assigned
  | .branch condition body => condition.expr.assigned ++ assignedOfStmts body
  | .bind _ value => value.expr.assigned
  | .guard _ body => assignedOfStmts body
  | .loop _ body => assignedOfStmts body
  | .pass => []

/-- `Stmt.assigned` of several statements. -/
def assignedOfStmts : List Stmt → List String
  | [] => []
  | s :: ss => s.assigned ++ assignedOfStmts ss

end

/-- The names that the expressions of a program assign. -/
def Program.assigned (p : Program) : List String := assignedOfStmts p.body

mutual

/-- The names that a statement binds for a loop. -/
def Stmt.bound : Stmt → List String
  | .bind name _ => [name]
  | .branch _ body => boundOfStmts body
  | .guard _ body => boundOfStmts body
  | .loop names body => names.all ++ boundOfStmts body
  | .emit _ | .pass => []

/-- `Stmt.bound` of several statements. -/
def boundOfStmts : List Stmt → List String
  | [] => []
  | s :: ss => s.bound ++ boundOfStmts ss

end

/-- The names that a generated function relies on: its parameter, the variables of its output, the
helpers and the built-in names that it calls, and the variables of its loops. -/
def Program.reliedOn (p : Program) : List String :=
  contextName :: outputVariables.map (·.1) ++ Helper.all.map Helper.name ++
    ["bool", Stmt.counterName] ++ boundOfStmts p.body

end Curly
