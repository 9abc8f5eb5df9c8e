import Curly.Arguments

/-!
Machines: what changes while expressions are evaluated. That is the variables of the scopes that
have been opened, the iterators that are being gone through, how many functions have been made, and
the output of the generated function, if one runs. Nothing of this is ever taken back, so a scope
lives as long as a function that refers to it.
-/

namespace Curly

/-- A comprehension that is being gone through: where it stands, what it makes of its variables, and
the iterators of the clauses that it is in, the innermost first. -/
structure Generator where
  env : Env
  element : Expr
  value : Option Expr
  clauses : List Clause
  entered : List Nat
  deriving Inhabited

/-- Iterators, by where their items come from. Other iterators are given by their numbers. -/
inductive Iter
  | items (rest : List Value)
  | numbers (next step : Int) (left : Nat)
  | counted (count : Int) (inner : Nat)
  | zipped (strict : Bool) (inner : List Nat)
  | generated (generator : Generator)
  deriving Inhabited

/-- The variables of a scope that have a value. -/
abbrev Frame := List (String × Value)

/-- What changes while expressions are evaluated. -/
structure Machine where
  frames : Array Frame := #[]
  iterators : Array Iter := #[]
  closures : Nat := 0
  /-- The pieces of output so far, the last one first; none where no generated function runs. -/
  output : Option (List Value) := none
  deriving Inhabited

/-- Evaluation changes a machine, or ends in a fault. -/
abbrev Eval := StateT Machine (Except Fault)

/-- Sets the value of a variable. -/
def Frame.set (name : String) (v : Value) : Frame → Frame
  | [] => [(name, v)]
  | (n, w) :: rest => if n = name then (n, v) :: rest else (n, w) :: Frame.set name v rest

/-- The value of a variable of a scope, if it has one. -/
def Machine.valueOf (m : Machine) (frame : Nat) (name : String) : Option Value :=
  (m.frames[frame]?).bind (·.lookup name)

/-- The machine in which a variable of a scope has a value. -/
def Machine.setVariable (m : Machine) (frame : Nat) (name : String) (v : Value) : Machine :=
  { m with frames := m.frames.modify frame (Frame.set name v) }

namespace Eval

/-- A result that does not depend on the machine. -/
def ofExcept (r : Except Fault α) : Eval α := liftM r

/-- Sets the value of a variable of a scope. -/
def setVariable (frame : Nat) (name : String) (v : Value) : Eval Unit :=
  modify (·.setVariable frame name v)

/-- Opens a scope. -/
def newFrame (vars : Frame) : Eval Nat :=
  modifyGet fun m => (m.frames.size, { m with frames := m.frames.push vars })

/-- Makes an iterator. -/
def newIterator (it : Iter) : Eval Nat :=
  modifyGet fun m => (m.iterators.size, { m with iterators := m.iterators.push it })

/-- Changes an iterator. -/
def setIterator (id : Nat) (it : Iter) : Eval Unit :=
  modify fun m => { m with iterators := m.iterators.setIfInBounds id it }

/-- The pieces of output so far. -/
def gathered : Eval (List Value) := do
  match (← get).output with
  | some pieces => return pieces.reverse
  | none => throw (.unboundFree resultName)

/-- Adds a piece to the output. -/
def gather (v : Value) : Eval Unit := do
  match (← get).output with
  | some pieces => modify ({ · with output := some (v :: pieces) })
  | none => throw (.unboundFree resultName)

/-- The number of the next function. -/
def newClosure : Eval Nat := modifyGet fun m => (m.closures, { m with closures := m.closures + 1 })

end Eval

/-- What evaluation needs of itself at a smaller depth: to call a value, and to take the next item
of an iterator. -/
structure Hooks where
  call : Value → Arguments → Eval Value
  next : Nat → Eval (Option Value)

/-- At no depth left nothing can be called. -/
def Hooks.none : Hooks where
  call _ _ := throw .tooDeep
  next _ := throw .tooDeep

/-- Setting a variable of a scope leaves the others as they are. -/
theorem Frame.lookup_set (name id : String) (v : Value) (F : Frame) :
    List.lookup id (F.set name v) = if id = name then some v else List.lookup id F := by
  induction F with
  | nil =>
      by_cases h : id = name
      · simp [set, h]
      · have hne : (id == name) = false := by simpa using h
        simp [set, List.lookup_cons, hne, h]
  | cons x F ih =>
      obtain ⟨n, w⟩ := x
      -- the variable that is set is this one, or it stands behind it
      by_cases hn : n = name
      · subst hn
        by_cases h : id = n
        · simp [set, h]
        · have hne : (id == n) = false := by simpa using h
          simp [set, List.lookup_cons, hne, h]
      · by_cases h : id = n
        · subst h
          simp [set, hn]
        · have hne : (id == n) = false := by simpa using h
          simp [set, hn, List.lookup_cons, hne, ih]

namespace Machine

/-- A variable that was set has its value. -/
theorem valueOf_setVariable {m : Machine} {frame : Nat} (h : frame < m.frames.size)
    (name : String) (v : Value) : (m.setVariable frame name v).valueOf frame name = some v := by
  simp [valueOf, setVariable, h, Array.getElem_modify, Frame.lookup_set]

end Machine

end Curly
