import Curly.Files
import Curly.Text.Unicode.Case
import Curly.Value.Equality
import Curly.Value.Text
import Curly.Yaml

/-!
Settings: mappings that are read from texts and files of YAML, and the settings of the command line
that such a mapping holds.
-/

namespace Curly

/-- What the user can mend in files and arguments. -/
inductive ConfigFailure
  | unreadable (path : String) (problem : FileProblem)
  | malformed (source : String)
  | notMapping (source : String)
  | defaults
  | assignment (text : String)
  | noTemplate (path : String)
  | unreadableTemplate (path : String) (problem : FileProblem)
  deriving DecidableEq, Inhabited

/-- What is said of a failure. The details of what is no YAML are left to a star. -/
def ConfigFailure.message : ConfigFailure → String
  | .unreadable path problem => s!"Failed to read {path}: {problem.message path}"
  | .malformed source => s!"Invalid YAML in {source}: *"
  | .notMapping source => s!"YAML must be a mapping: {source}"
  | .defaults => "'defaults' must be a mapping"
  | .assignment text => s!"Invalid assignment '{text}'. Expected 'key=value'"
  | .noTemplate path => s!"Template file not found: {path}"
  | .unreadableTemplate path problem =>
    s!"Failed to read template file {path}: {problem.message path}"

/-- Why something was not loaded: the user can mend it, or not. -/
inductive LoadFailure
  | config (failure : ConfigFailure)
  | fault (fault : Fault)
  deriving DecidableEq, Inhabited

/-- Results of loading. -/
abbrev Load := Except LoadFailure

/-- What failed, with what is told the user of a file that cannot be opened. -/
def LoadFailure.ofRead (unreadable : FileProblem → ConfigFailure) : ReadFailure → LoadFailure
  | .problem p => .config (unreadable p)
  | .fault f => .fault f

/-- Whether a file stands under a path. Where the system does not tell, that is a fault. -/
def isFileAt (find : String → FileState) (path : String) : Load Bool :=
  (find path).isFile.mapError fun p => .fault (.unreachable p path)

/-- The entries of the mapping that a text holds. An empty text holds an empty one. -/
def loadMapping (source text : String) : Load (List (Value × Loaded)) :=
  match Yaml.load text with
  | .ok (.plain .none) => .ok []
  | .ok (.dict _ entries) => .ok entries
  | .ok _ => .error (.config (.notMapping source))
  | .error (.defect _) => .error (.config (.malformed source))
  | .error (.fault f) => .error (.fault f)

/-- The values of the mapping that a text holds. -/
def parseMapping (source text : String) : Load (List (Value × Value)) :=
  Loaded.entryValues <$> loadMapping source text

/-- The entries of the mapping that a file holds. -/
def readMapping (find : String → FileState) (path encoding : String) :
    Load (List (Value × Loaded)) := do
  let path := plainPath path
  loadMapping path (← (readFile find path encoding).mapError (.ofRead (.unreadable path)))

/-- The settings of the command line: data for every template, the encoding of files, and how much
is reported. -/
structure Settings where
  data : List (Value × Loaded) := []
  encoding : String := "utf-8"
  logLevel : String := "WARNING"
  deriving Inhabited

namespace Settings

/-- The values of the data for every template. -/
def defaults (s : Settings) : List (Value × Value) := Loaded.entryValues s.data

/-- The plain form of the value of a key, or what it is without one. -/
def textOr (usual key : String) (entries : List (Value × Loaded)) : Load String :=
  match Value.field? key entries with
  | some d => d.value.text.mapError .fault
  | none => .ok usual

/-- The default data that a mapping holds. Values that count as false stand for none. -/
def defaultsOf (entries : List (Value × Loaded)) : Load (List (Value × Loaded)) :=
  match Value.field? "defaults" entries with
  | some d =>
    match d.dict? with
    | some (_, defaults) => .ok defaults
    | none => if d.value.isTrue then .error (.config .defaults) else .ok []
  | none => .ok []

/-- The settings that a mapping holds. -/
def ofEntries (entries : List (Value × Loaded)) : Load Settings := do
  let defaults ← defaultsOf entries
  let encoding ← textOr "utf-8" "encoding" entries
  let level ← textOr "WARNING" "log_level" entries
  return ⟨defaults, encoding, String.ofList (Text.Unicode.toUpper level.toList)⟩

/-- The settings that a value holds. -/
def ofValue : Value → Load Settings
  | .dict entries => ofEntries (Loaded.plainEntries entries)
  | v => .error (.fault (.noAttribute v.typeName "get"))

/-- The file of the settings, unless another one is named. -/
def fileName : String := "stache.yaml"

/-- Loads the settings from a named file, or from the usual one if it is there. -/
def load (find : String → FileState) (path : Option String) : Load Settings :=
  match path with
  | some path => do ofEntries (← readMapping find path "utf-8")
  | none => do
    if ← isFileAt find fileName then ofEntries (← readMapping find fileName "utf-8")
    else return {}

end Settings

end Curly
