import Curly.Rendering
import Curly.Value.Conversion

/-!
A registry of mounted templates. A template is mounted under a name with data, and is rendered
again whenever new data are laid over them; its last text stays with it. A call that fails leaves
the registry as it was.
-/

namespace Curly

/-- A mounted template, the data that it was last rendered with, and the text that came of it. -/
structure Mounted where
  template : String
  context : List (Value × Value)
  output : String
  deriving Inhabited

/-- Mounted templates under their names, in the order in which the names were first used. -/
structure Registry where
  mounts : List (String × Mounted) := []
  deriving Inhabited

/-- Why a template was not mounted or not rendered again. -/
inductive MountFailure
  /-- The data are no entries of a dictionary. -/
  | context (fault : Fault)
  | rendering (failure : Failure)
  deriving DecidableEq, Inhabited

/-- What is said of a failure. -/
def MountFailure.message : MountFailure → String
  | .context fault => fault.message
  | .rendering failure => failure.message

/-- The text of a template that is given as a value. -/
def templateText : Value → Except SyntaxFailure String
  | .str s => .ok s
  | _ => .error ⟨.notText, .start⟩

/-- The program of a template that is given as a value. -/
def compileValue (template : Value) : Except Failure Program := do
  let s ← (templateText template).mapError (.template ∘ .syntactic)
  (Program.ofTemplate s).mapError .template

/-- The text that a template given as a value makes of data. -/
def renderValue (template context : Value) : Except Failure String := do
  let p ← compileValue template
  (p.render context).mapError .render

namespace Registry

/-- What is mounted under a name. -/
def get? (r : Registry) (name : String) : Option Mounted := r.mounts.lookup name

/-- Sets what is mounted under a name among other mounts. -/
def putAmong (name : String) (m : Mounted) : List (String × Mounted) → List (String × Mounted)
  | [] => [(name, m)]
  | (n, old) :: rest => if n == name then (n, m) :: rest else (n, old) :: putAmong name m rest

/-- Sets what is mounted under a name. -/
def put (r : Registry) (name : String) (m : Mounted) : Registry := ⟨putAmong name m r.mounts⟩

/-- Takes a name away. -/
def unmount (r : Registry) (name : String) : Registry :=
  ⟨r.mounts.filter fun (n, _) => n != name⟩

/-- The names in use, sorted. -/
def names (r : Registry) : List String :=
  (r.mounts.map (·.1)).mergeSort fun a b => decide (a ≤ b)

/-- Renders a template, which is a text with its own copy of the data, and mounts it. -/
def mount (r : Registry) (name : String) (template context : Value) :
    Except MountFailure (Registry × String) := do
  let entries ← if context.isTrue then context.toEntries.mapError .context else pure []
  let text ← (templateText template).mapError (.rendering ∘ .template ∘ .syntactic)
  let output ← (Curly.render text (.dict entries)).mapError .rendering
  return (r.put name ⟨text, entries, output⟩, output)

/-- Lays data over those of a mounted template and renders it again. -/
def update (r : Registry) (name : String) (context : Value) :
    Except MountFailure (Registry × String) := do
  match r.get? name with
  | none => throw (.rendering (.render (.notMounted name)))
  | some m =>
    let more ← if context.isTrue then context.spread.mapError .context else pure []
    let entries := Value.merge m.context more
    let output ← (Curly.render m.template (.dict entries)).mapError .rendering
    return (r.put name ⟨m.template, entries, output⟩, output)

/-- What a registry can be asked for. -/
inductive Call
  | mount (name : String) (template context : Value)
  | update (name : String) (context : Value)
  | render (template context : Value)
  | compile (template : Value)
  | get (name : String)
  | unmount (name : String)
  | clear
  | names
  deriving Inhabited

/-- What a registry answers. -/
inductive Reply
  | nothing
  | text (text : String)
  | mounted (mounted : Mounted)
  | names (names : List String)
  deriving Inhabited

/-- The registry after what was mounted or rendered again, and the answer. -/
def settle (r : Registry) (result : Except MountFailure (Registry × String)) :
    Registry × Except MountFailure Reply :=
  match result with
  | .ok (after, output) => (after, .ok (.text output))
  | .error e => (r, .error e)

/-- The registry after a call, and the answer. -/
def perform (r : Registry) : Call → Registry × Except MountFailure Reply
  | .mount name template context => r.settle (r.mount name template context)
  | .update name context => r.settle (r.update name context)
  | .render template context => (r, Reply.text <$> (renderValue template context).mapError .rendering)
  | .compile template =>
    (r, (fun p => Reply.text p.source) <$> (compileValue template).mapError .rendering)
  | .get name => (r, .ok (((r.get? name).map Reply.mounted).getD .nothing))
  | .unmount name => (r.unmount name, .ok .nothing)
  | .clear => ({}, .ok .nothing)
  | .names => (r, .ok (.names r.names))

end Registry

end Curly
