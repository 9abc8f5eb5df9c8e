import Curly.Loaded
import Curly.Text.Base64
import Curly.Text.Unicode.Case
import Curly.Value.Conversion
import Curly.Yaml.Cursor
import Curly.Yaml.Node

/-!
What nodes stand for. A mapping is a dictionary with every key once; under the key of
merging (`<<`) it takes over the entries of other mappings, which its own entries replace.
-/

namespace Curly.Yaml

/-- Why a document has no value: its nodes make none, or a scalar does not fit its tag. -/
inductive Failure
  | defect (defect : Defect)
  | fault (fault : Fault)
  deriving DecidableEq, Inhabited

/-! ## Scalars -/

/-- The words of truth values that a tag asks for. -/
def boolNames : List (String × Bool) :=
  [("yes", true), ("no", false), ("y", true), ("n", false), ("true", true), ("false", false),
    ("on", true), ("off", false)]

/-- A number's text without low lines, its sign taken off. -/
def numberParts (text : List Char) : Except Failure (Bool × List Char) :=
  match text.filter (· != '_') with
  | [] => .error (.fault (.indexRange "string"))
  | '-' :: cs => .ok (true, cs)
  | '+' :: cs => .ok (false, cs)
  | cs => .ok (false, cs)

/-- The base that a number's text tells, and its digits. -/
def baseOf : List Char → Nat × List Char
  | '0' :: 'b' :: ds => (2, ds)
  | '0' :: 'x' :: ds => (16, ds)
  | '0' :: 'o' :: ds => (8, ds)
  | ds => (10, ds)

/-- The integer that a text writes. -/
def integer (text : List Char) : Except Failure Value := do
  let (negative, body) ← numberParts text
  let (base, ds) := baseOf body
  match ← (Value.readInteger base ds (.ofChars ds)).mapError .fault with
  | .int n => return .int (if negative then -n else n)
  | v => return v

/-- The floating-point number that a text writes. -/
def decimal (text : List Char) : Except Failure Value := do
  let (negative, body) ← numberParts (Text.Unicode.toLower text)
  if body == ".inf".toList then return .float (.infinite negative)
  if body == ".nan".toList then return .float .nan
  match ← (Value.readFloat body (.ofChars body)).mapError .fault with
  | .float x => return .float (if negative then x.neg else x)
  | v => return v

/-- The truth value that a text names. -/
def truth (text : List Char) : Except Failure Value := do
  let name := Text.Unicode.toLower text
  match boolNames.lookup (String.ofList name) with
  | some b => return .bool b
  | none => throw (.fault (.missingKey (Text.Quoted.ofString (String.ofList name))))

/-- The bytes that a text writes. -/
def bytes (text : List Char) : Except Failure Value :=
  match Text.Base64.decode text with
  | some b => if text.all (·.toNat < 128) then .ok (.bytes b) else .error (.defect .binary)
  | none => .error (.defect .binary)

/-- The value of a scalar. -/
def scalarValue (tag : Tag) (text : String) : Except Failure Value :=
  match tag with
  | .null => .ok .none
  | .bool => truth text.toList
  | .int => integer text.toList
  | .float => decimal text.toList
  | .binary => bytes text.toList
  | .str => .ok (.str text)
  | .seq | .map | .set | .omap | .pairs => .error (.defect .kind)
  | .merge | .value | .unknown => .error (.defect .unknownTag)

/-! ## Collections -/

/-- What can be a key: a sequence becomes a tuple. -/
def toKey : Value → Except Failure Value
  | .list vs => .ok (.tuple vs)
  | .dict _ | .set _ => .error (.defect .keyType)
  | v => .ok v

/-- Adds an entry to a dictionary. Keys may be said to stand there once. -/
def addEntry (once : Bool) (entries : List (Value × Loaded)) (entry : Value × Loaded) :
    Except Failure (List (Value × Loaded)) :=
  match entry.1.unhashable? with
  | some t => .error (.fault (.unhashable t))
  | none =>
    if once && (Value.find? entry.1 entries).isSome then .error (.defect .repeatedKey)
    else .ok (Value.insert entry.1 entry.2 entries)

/-- The entries of a mapping: those that it takes over, and its own. -/
structure Entries where
  merged : List (Value × Loaded) := []
  own : List (Value × Loaded) := []

/-- All entries, those taken over first. -/
def Entries.all (es : Entries) : List (Value × Loaded) := es.merged ++ es.own

/-- The dictionary of entries. Where some are taken over any may be replaced. -/
def Entries.toDict (es : Entries) : Except Failure (List (Value × Loaded)) :=
  es.all.foldlM (addEntry es.merged.isEmpty) []

/-- Adds entries that are taken over, which is done once only. -/
def Entries.merge (es : Entries) (more : List (Value × Loaded)) : Except Failure Entries :=
  if es.merged.isEmpty || more.isEmpty then .ok { es with merged := more ++ es.merged }
  else .error (.defect .repeatedKey)

/-- Whether a node is the key of merging. -/
def Node.isMerge : Node → Bool
  | .scalar .merge _ => true
  | _ => false

/-- Whether a node is the key of a value that stands for its mapping. -/
def Node.isValueKey : Node → Bool
  | .scalar .value _ => true
  | _ => false

mutual

/-- The text of a node: of a scalar, or of what stands for a mapping. -/
def Node.text : Node → Except Failure String
  | .scalar _ text => .ok text
  | .sequence .. => .error (.defect .kind)
  | .mapping _ _ entries => textAmong entries

/-- The text of what stands for a mapping with entries. -/
def textAmong : List (Node × Node) → Except Failure String
  | [] => .error (.defect .kind)
  | (k, v) :: es => if k.isValueKey then v.text else textAmong es

end

mutual

/-- What a node stands for. A dictionary has the mark of its node. -/
def Node.load : Node → Except Failure Loaded
  | .scalar tag text => .plain <$> scalarValue tag text
  | .sequence mark tag items =>
    match tag with
    | .seq => .list <$> loadAll items
    | .omap => do
      let es := (← pairsOf items).map fun (k, d) => (k.value, d)
      return .dict mark (← es.foldlM (addEntry true) [])
    | .pairs => do return .list ((← pairsOf items).map fun (k, d) => .tuple [k, d])
    | .merge | .value | .unknown => .error (.defect .unknownTag)
    | _ => .error (.defect .kind)
  | .mapping mark tag entries =>
    match tag with
    | .map => do return .dict mark (← (← entriesOf entries).toDict)
    | .set => do return .plain (.set ((← (← entriesOf entries).toDict).map (·.1)))
    | .seq | .omap | .pairs => .error (.defect .kind)
    | .merge | .value | .unknown => .error (.defect .unknownTag)
    | tag => do return .plain (← scalarValue tag (← textAmong entries))

/-- What nodes stand for. -/
def loadAll : List Node → Except Failure (List Loaded)
  | [] => .ok []
  | n :: ns => do return (← n.load) :: (← loadAll ns)

/-- The only entry of each of several mappings. -/
def pairsOf : List Node → Except Failure (List (Loaded × Loaded))
  | [] => .ok []
  | .mapping _ _ [(k, v)] :: ns => do return (← k.load, ← v.load) :: (← pairsOf ns)
  | _ => .error (.defect .kind)

/-- The entries of a mapping. -/
def entriesOf : List (Node × Node) → Except Failure Entries
  | [] => .ok {}
  | (k, v) :: es => do
    if k.isMerge then
      let more ← sourceOf v
      (← entriesOf es).merge more
    else
      let key ← if k.isValueKey then .str <$> k.text else toKey (← k.load).value
      let value ← v.load
      let rest ← entriesOf es
      return { rest with own := (key, value) :: rest.own }

/-- The entries that a node gives to a mapping that takes them over: those of a mapping, or of
several, the last of which counts least. -/
def sourceOf : Node → Except Failure (List (Value × Loaded))
  | .mapping _ _ entries => Entries.all <$> entriesOf entries
  | .sequence _ _ items => do return (← sourcesOf items).reverse.flatten
  | .scalar .. => .error (.defect .mergeSource)

/-- The entries that each of several mappings gives. -/
def sourcesOf : List Node → Except Failure (List (List (Value × Loaded)))
  | [] => .ok []
  | .mapping _ _ entries :: ns => do
    return (Entries.all (← entriesOf entries)) :: (← sourcesOf ns)
  | _ => .error (.defect .mergeSource)

end

end Curly.Yaml
