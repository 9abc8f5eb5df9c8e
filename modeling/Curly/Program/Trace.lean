import Curly.Program.Generation

/-!
Notes on the way from a template to its text, for those who look for a mistake. Generation is noted
up to where it stops.
-/

namespace Curly

/-- Notes. -/
inductive Note
  | tokenized (chars tokens : Nat)
  | parsed (tokens nodes : Nat)
  | loop (items : String) (names : LoopNames) (depth : Nat)
  | complex (source code : String)
  | generated (lines : Nat)
  | failed
  deriving DecidableEq, Inhabited

/-- What a note says. -/
def Note.text : Note → String
  | .tokenized chars tokens => s!"Tokenized template: {chars} chars, {tokens} tokens"
  | .parsed tokens nodes => s!"Parsed {tokens} tokens into {nodes} top-level nodes"
  | .loop items names depth =>
    s!"Loop over {Text.Quoted.ofString items} bound to {names.item}/{names.index} (depth {depth})"
  | .complex source code => s!"Complex expression {Text.Quoted.ofString source} -> {code}"
  | .generated lines => s!"Generated {lines} lines of Python"
  | .failed => "Template invocation failed"

/-- The notes on a term that was read. -/
def Term.notes : Term → List Note
  | .complex source body => [.complex source body.print]
  | .comparison _ left right => left.notes ++ right.notes
  | .truthy operand => operand.notes
  | .this _ | .path .. | .literal .. => []

/-- Generation as far as its notes tell: it counts loops, and stops at the first text that is no
term. -/
structure Trace where
  counter : LoopCounter := {}
  notes : List Note := []
  stopped : Bool := false
  deriving Inhabited

namespace Trace

/-- Adds notes. -/
def add (notes : List Note) (t : Trace) : Trace := { t with notes := t.notes ++ notes }

/-- Notes what was read. -/
def read (r : Except ExpressionFailure Term) (t : Trace) : Trace :=
  match r with
  | .ok term => t.add term.notes
  | .error _ => { t with stopped := true }

/-- Notes what was read of a condition. Of a comparison the left operand may have been read. -/
def readCondition (scope : Scope) (text : List Char) (t : Trace) : Trace :=
  match Term.readCondition scope text, Form.comparison? (Text.strip text) with
  | .error _, some (op, left, _) =>
    if (Operator.ofName? (String.ofList op)).isSome then
      { t.read (Term.readOperand scope left) with stopped := true }
    else { t with stopped := true }
  | r, _ => t.read r

mutual

/-- Notes on a node. -/
def node (scope : Scope) (n : Node) (t : Trace) : Trace :=
  match n with
  | .text _ => t
  | .variable e | .raw e => t.read (Term.readAccess scope e.toList)
  | .cond condition children =>
    let t := t.readCondition scope condition.toList
    if t.stopped then t else nodes scope children t
  | .each items children =>
    let t := t.read (Term.readAccess scope items.toList)
    if t.stopped then t
    else
      let (names, counter) := t.counter.next
      let t := { t with counter := counter }
      nodes (names :: scope) children (t.add [.loop items names (scope.length + 1)])
  | .foreign _ => { t with stopped := true }

/-- Notes on nodes. -/
def nodes (scope : Scope) (ns : List Node) (t : Trace) : Trace :=
  match ns with
  | [] => t
  | n :: ns =>
    let t := node scope n t
    if t.stopped then t else nodes scope ns t

end

end Trace

/-- The notes on the generation of a program. -/
def Tree.trace (t : Tree) : List Note :=
  let trace := Trace.nodes [] t.children {}
  match Program.ofTree t with
  | .ok p => trace.notes ++ [.generated (p.source.toList.count '\n')]
  | .error _ => trace.notes

end Curly
