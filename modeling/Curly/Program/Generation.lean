import Curly.Program
import Curly.Term.Reader
import Curly.Tree

/-!
Generation: the nodes of a template become statements in document order. Neighbouring pieces of
output are put into one statement; every loop gets the next number for its names.
-/

namespace Curly

/-- Generation counts loops, and stops at the first text that is no term. -/
abbrev Generation := StateT LoopCounter (Except ExpressionFailure)

namespace Generation

/-- Puts a piece of output before statements, into the first one if this is output too. -/
def prepend (p : Piece) : List Stmt → List Stmt
  | .emit ps :: rest => .emit (p :: ps) :: rest
  | ss => .emit [p] :: ss

/-- The body of a block, which must not be empty. -/
def block : List Stmt → List Stmt
  | [] => [.pass]
  | ss => ss

/-- The names of the next loop. -/
def nextLoop : Generation LoopNames := modifyGet LoopCounter.next

mutual

/-- Generates the statements of a node, in front of those of what follows it. -/
def node (scope : Scope) : Node → Generation (List Stmt → List Stmt)
  | .text value => return prepend (.text value)
  | .variable expression => return prepend (.escaped (← Term.readAccess scope expression.toList))
  | .raw expression => return prepend (.plain (← Term.readAccess scope expression.toList))
  | .cond condition children => do
    let condition ← Term.readCondition scope condition.toList
    let body ← nodes scope children
    return (.branch condition (block body) :: ·)
  | .each items children => do
    let items ← Term.readAccess scope items.toList
    let names ← nextLoop
    let body ← nodes (names :: scope) children
    return fun rest =>
      .bind names.items items :: .guard names.items [.loop names (block body)] :: rest
  | .foreign typeName => throw ⟨.unknownNode typeName, none⟩

/-- Generates the statements of nodes. -/
def nodes (scope : Scope) : List Node → Generation (List Stmt)
  | [] => return []
  | n :: ns => do
    let front ← node scope n
    return front (← nodes scope ns)

end

end Generation

/-- The program of a tree. -/
def Program.ofTree (t : Tree) : Except ExpressionFailure Program := do
  let (body, _) ← (Generation.nodes [] t.children).run {}
  return ⟨body⟩

end Curly
