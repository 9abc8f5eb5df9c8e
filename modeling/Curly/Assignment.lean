import Curly.Settings
import Curly.Text.Space
import Curly.Value.Conversion

/-!
Assignments: `key=value` sets a value in the data of a template. The value is read as YAML, and a
key with points in it leads into mappings inside.
-/

namespace Curly

/-- A key with the data that it is set to. -/
structure Assignment where
  key : String
  data : Loaded
  deriving Inhabited

namespace Assignment

/-- The value that a key is set to. -/
def value (a : Assignment) : Value := a.data.value

/-- The data that a text stands for. What is no YAML stands for itself. -/
def dataOf (text : String) : Load Loaded :=
  if (Text.strip text.toList).isEmpty then .ok (.plain (.str ""))
  else match Yaml.load text with
    | .ok d => .ok d
    | .error (.defect _) => .ok (.plain (.str text))
    | .error (.fault f) => .error (.fault f)

/-- Reads an assignment: a key, which is not empty, in front of the first equals sign. -/
def parse (text : String) : Load Assignment :=
  match Text.cut ['='] text.toList with
  | some (key, value) =>
    let key := String.ofList (Text.strip key)
    if key.isEmpty then .error (.config (.assignment text))
    else (⟨key, ·⟩) <$> dataOf (String.ofList value)
  | none => .error (.config (.assignment text))

/-- The dictionary under a key. What is none becomes one, which is empty. -/
def inside (key : String) (entries : List (Value × Loaded)) :
    Option Nat × List (Value × Loaded) :=
  ((Value.field? key entries).bind Loaded.dict?).getD (none, [])

/-- Sets data under a path of keys. What is no mapping on the way becomes one. -/
def setPath (data : Loaded) : (keys : List String) → List (Value × Loaded) → List (Value × Loaded)
  | [], entries => entries
  | [key], entries => Value.insert (.str key) data entries
  | key :: keys, entries =>
    let (mark, inner) := inside key entries
    Value.insert (.str key) (.dict mark (setPath data keys inner)) entries

/-- The last dictionary with a mark that a path of keys leads through: its mark, and the keys from
there on. -/
def nearest? : (keys : List String) → List (Value × Loaded) → Option (Nat × List String)
  | key :: key' :: keys, entries =>
    let (mark, inner) := inside key entries
    (nearest? (key' :: keys) inner).or (mark.map (·, key' :: keys))
  | _, _ => none

/-- Sets data under a path of keys, wherever the dictionaries stand that the path leads through: all
that stands in the last one with a mark stands in each of its places. -/
def assign (data : Loaded) (keys : List String) (entries : List (Value × Loaded)) :
    List (Value × Loaded) :=
  match nearest? keys entries with
  | some (mark, rest) => Loaded.remakeEntries (Loaded.changeAt mark (setPath data rest)) entries
  | none => setPath data keys entries

/-- The keys that lead to what an assignment sets. -/
def path (a : Assignment) : List String :=
  (Text.splitAll ['.'] a.key.toList).map String.ofList

/-- Sets the data of an assignment. Its dictionaries are none of those that are there. -/
def apply (entries : List (Value × Loaded)) (a : Assignment) : List (Value × Loaded) :=
  assign (a.data.remake (Loaded.moveMark (Loaded.freshMark entries))) a.path entries

end Assignment

/-- Defaults with the data of a file over them. No dictionary of the one stands in the other. -/
def mergeData (defaults data : List (Value × Loaded)) : List (Value × Loaded) :=
  let data := Loaded.remakeEntries (Loaded.moveMark (Loaded.freshMark defaults)) data
  data.foldl (fun entries (key, d) => Value.insert key d entries) defaults

/-- The data of a template: defaults, the data of a file over them, and assignments in turn. -/
def buildData (defaults data : List (Value × Loaded)) (assignments : List String) :
    Load (List (Value × Loaded)) :=
  assignments.foldlM (fun entries text => do return Assignment.apply entries (← Assignment.parse text))
    (mergeData defaults data)

/-- The data of a template from values of which none stands in two places. -/
def buildContext (defaults data : List (Value × Value)) (assignments : List String) :
    Load (List (Value × Value)) :=
  Loaded.entryValues <$>
    buildData (Loaded.plainEntries defaults) (Loaded.plainEntries data) assignments

end Curly
