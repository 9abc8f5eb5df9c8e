import Curly.Program.Compilation
import Curly.Program.Run

/-!
Rendering: a template and data become text. The data must be a dictionary; what goes wrong with them
is reported with its cause.
-/

namespace Curly

/-- Why data were not rendered. -/
inductive RenderFailure
  | notCallable
  | notMapping
  | notMounted (name : String)
  | failed (cause : Fault)
  deriving DecidableEq, Inhabited

namespace RenderFailure

/-- What is said of a failure. -/
def message : RenderFailure → String
  | .notCallable => "Compiled template must be callable"
  | .notMapping => "Context must be a mapping"
  | .notMounted name => s!"Target '{name}' was not rendered by this engine"
  | .failed cause => s!"Rendering failed: {cause.message}"

/-- The fault that a failure comes from. -/
def cause? : RenderFailure → Option Fault
  | .failed cause => some cause
  | _ => none

end RenderFailure

namespace Program

/-- The data that stand for none. -/
def emptyContext : Value := .dict []

/-- The text that a program makes of any data, which may be missing. -/
def apply (p : Program) (context : Value) : Except Fault String :=
  match context with
  | .none => p.run emptyContext
  | v => p.run v

/-- The text that a program makes of data. -/
def render (p : Program) (context : Value) : Except RenderFailure String :=
  match context with
  | .none => (p.run emptyContext).mapError .failed
  | .dict entries => (p.run (.dict entries)).mapError .failed
  | _ => .error .notMapping

end Program

/-- Why a template was not rendered. -/
inductive Failure
  | template (failure : TemplateFailure)
  | render (failure : RenderFailure)
  deriving DecidableEq, Inhabited

/-- What is said of a failure. -/
def Failure.message : Failure → String
  | .template e => e.message
  | .render e => e.message

/-- The text that a template makes of data. -/
def render (template : String) (context : Value) : Except Failure String := do
  let p ← (Program.ofTemplate template).mapError .template
  (p.render context).mapError .render

end Curly
