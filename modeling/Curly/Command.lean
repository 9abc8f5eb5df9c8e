import Curly.Assignment
import Curly.Command.Request
import Curly.Json
import Curly.Logging
import Curly.Program.Trace
import Curly.Rendering

/-!
Carrying out requests: settings are loaded, the template is read, and its text, its code or a
listing is the output. What the user can mend is reported and ends with a code of its own.
-/

namespace Curly.Command

/-- What a request works on: the files, the text that comes in, and whether details are asked for
from outside. -/
structure Surroundings where
  find : String → FileState
  input : String := ""
  detailed : Bool := false

/-- Why a request was not carried out. -/
inductive CommandFailure
  | loading (failure : LoadFailure)
  | rendering (failure : Failure)
  deriving DecidableEq, Inhabited

/-- What is said of a failure. -/
def CommandFailure.message : CommandFailure → String
  | .loading (.config e) => e.message
  | .loading (.fault f) => f.message
  | .rendering e => e.message

/-- Whether the user can mend a failure. -/
def CommandFailure.isUserError : CommandFailure → Bool
  | .loading (.config _) => true
  | .loading (.fault _) => false
  | .rendering (.template (.expression e)) => e.isUserError
  | .rendering _ => true

/-- How far a request was carried out: notes, and the output or why there is none. -/
structure Report where
  notes : List Note := []
  result : Except CommandFailure String
  deriving Inhabited

/-- A report on what was refused. -/
def Report.refuse (e : CommandFailure) : Report := { result := .error e }

/-- A report with notes in front. -/
def Report.after (notes : List Note) (r : Report) : Report := { r with notes := notes ++ r.notes }

/-- A report on what was found before, or on what follows from it. -/
def reportOn {α : Type} (r : Except CommandFailure α) (next : α → Report) : Report :=
  match r with
  | .ok a => next a
  | .error e => .refuse e

/-! ## Stages -/

/-- Reads the tokens of a template. -/
def withTokens (template : String) (next : List Token → Report) : Report :=
  reportOn ((tokenize template).mapError (.rendering ∘ .template ∘ .syntactic)) fun ts =>
    (next ts).after [.tokenized template.length ts.length]

/-- Reads the tree of a template. -/
def withTree (template : String) (next : Tree → Report) : Report :=
  withTokens template fun ts =>
    reportOn ((Tree.ofTokens ts).mapError (.rendering ∘ .template ∘ .structural)) fun t =>
      (next t).after [.parsed ts.length t.children.length]

/-- Makes the program of a template. -/
def withProgram (template : String) (next : Program → Report) : Report :=
  withTree template fun t =>
    (reportOn ((Program.compile t).mapError (.rendering ∘ .template ∘ .expression)) next).after
      t.trace

/-- Renders a template with data. -/
def renderWith (template : String) (context : List (Value × Value)) : Report :=
  withProgram template fun p =>
    match p.render (.dict context) with
    | .ok output => { result := .ok output }
    | .error e => { notes := [.failed], result := .error (.rendering (.render e)) }

/-! ## Requests -/

/-- The path that stands for the text that comes in. -/
def inputPath : String := "-"

/-- The text of a template. -/
def readTemplate (s : Surroundings) (path encoding : String) : Load String :=
  if path == inputPath then .ok s.input
  else do
    let path := plainPath path
    if ← isFileAt s.find path then
      (readFile s.find path encoding).mapError (.ofRead (.unreadableTemplate path))
    else throw (.config (.noTemplate path))

/-- A path, unless it is empty. -/
def nonEmpty (path : Option String) : Option String := path.filter (· != "")

/-- The paths that a request may look at. -/
def Request.paths (r : Request) : List String :=
  plainPath r.template :: (((nonEmpty r.config).toList ++ (nonEmpty r.context).toList).map plainPath) ++
    [Settings.fileName]

/-- The data that a request renders with. -/
def contextOf (s : Surroundings) (settings : Settings) (r : Request) :
    Load (List (Value × Value)) := do
  let data ← match nonEmpty r.context with
    | some path => readMapping s.find path settings.encoding
    | none => pure []
  Loaded.entryValues <$> buildData settings.data data r.assignments

/-- Carries out a subcommand on a template. -/
def perform (s : Surroundings) (settings : Settings) (r : Request) (template : String) : Report :=
  match r.subcommand with
  | .render =>
    reportOn ((contextOf s settings r).mapError .loading) fun context =>
      renderWith template context
  | .compile => withProgram template fun p => { result := .ok p.source }
  | .tokens => withTokens template fun ts => { result := .ok (listTokens ts) }
  | .tree => withTree template fun t => { result := .ok t.list }

/-- Carries out a request. Notes are kept where details are reported. -/
def run (s : Surroundings) (r : Request) : Report :=
  reportOn ((Settings.load s.find (nonEmpty r.config)).mapError .loading) fun settings =>
    let level := LogLevel.choose (some settings.logLevel) (r.verbose || s.detailed)
    let report := reportOn ((readTemplate s r.template settings.encoding).mapError .loading)
      (perform s settings r)
    if level.isDetailed then report else { report with notes := [] }

namespace Report

/-- The code that the program ends with: a failure that the user can mend has its own. -/
def code (r : Report) : Nat :=
  match r.result with
  | .ok _ => 0
  | .error e => if e.isUserError then 2 else 1

/-- The output of the program. -/
def output (r : Report) : String := r.result.toOption.getD ""

/-- The line that a note is reported in. -/
def noteLine (n : Note) : String := s!"[DEBUG] {n.text}\n"

/-- The line that a failure is reported in. -/
def failureLine (e : CommandFailure) : String :=
  String.ofList (Text.stripEnd e.message.toList) ++ "\n"

/-- What is reported beside the output. -/
def messages (r : Report) : String :=
  let lines := String.join (r.notes.map noteLine)
  match r.result with
  | .ok _ => lines
  | .error e => lines ++ failureLine e

end Report

end Curly.Command
