import Curly.Yaml.Node
import Curly.Yaml.Token

/-!
The nodes that tokens make up. Aliases stand for the nodes that their anchors name.
-/

namespace Curly.Yaml

/-- What is left to read: tokens, the named nodes, where one that is not read to its end is none,
and the handles of tags with what they stand for. -/
structure Reader where
  tokens : List Token
  anchors : List (String × Option Node) := []
  handles : List (String × String)

/-- Actions of a reader. -/
abbrev Read := StateT Reader (Except Defect)

namespace Reader

/-- The handles that every document has. -/
def standardHandles : List (String × String) := [("!", "!"), ("!!", Tag.domain)]

/-- The next token. At the end of the tokens there is none. -/
def peek : Read (Option Token) := return (← get).tokens.head?

/-- Moves past a token. -/
def skip : Read Unit := modify fun r => { r with tokens := r.tokens.tail }

/-- Moves past a token if it is the next one. -/
def accept (t : Token) : Read Bool := do
  if (← peek) == some t then
    skip
    return true
  return false

/-- Whether the next token is among some. -/
def at? (ts : List Token) : Read Bool := return (← peek).any ts.contains

/-- What the node at hand is called, and its tag. -/
structure Properties where
  anchor : Option String := none
  tag : Option String := none

/-- The name of a tag. -/
def tagName (handle suffix : String) : Read String := do
  if handle.isEmpty then return suffix
  match (← get).handles.lookup handle with
  | some start => return start ++ suffix
  | none => throw .unknownHandle

/-- An anchor, if there is one. -/
def anchor? : Read (Option String) := do
  match ← peek with
  | some (.anchor name) =>
    skip
    return some name
  | _ => return none

/-- A tag, if there is one. -/
def tag? : Read (Option (String × String)) := do
  match ← peek with
  | some (.tag handle suffix) =>
    skip
    return some (handle, suffix)
  | _ => return none

/-- The properties of a node: an anchor and a tag, in any order. -/
def properties : Read Properties := do
  let anchor ← anchor?
  let tag ← tag?
  let anchor ← if anchor.isNone && tag.isSome then anchor? else pure anchor
  let name ← tag.mapM fun (handle, suffix) => tagName handle suffix
  return { anchor := anchor, tag := name }

/-- The tag that leaves the kind of a node to its form. -/
def openTag : String := "!"

/-- The tag of a collection. -/
def Properties.collection (p : Properties) (usual : Tag) : Tag :=
  match p.tag with
  | none => usual
  | some name => if name == openTag then usual else Tag.ofName name

/-- The tag of a scalar. -/
def Properties.scalar (p : Properties) (isPlain : Bool) (text : String) : Tag :=
  match p.tag with
  | none => if isPlain then Tag.ofPlain text else .str
  | some name => if name == openTag then Tag.ofPlain text else Tag.ofName name

/-- The tag of a scalar that is left out. -/
def Properties.omitted (p : Properties) : Tag :=
  match p.tag with
  | none => .null
  | some name => if name == openTag then .str else Tag.ofName name

/-- The mark of the collection that begins here: how many tokens are left, which is less for every
one that begins later. -/
def mark : Read Nat := return (← get).tokens.length

/-- Sets what a name stands for. -/
def setAnchor (name : Option String) (node : Option Node) : Read Unit :=
  match name with
  | some name => modify fun r => { r with anchors := (name, node) :: r.anchors }
  | none => return

/-- What an alias stands for. -/
def named (name : String) : Read Node := do
  match (← get).anchors.lookup name with
  | some (some node) => return node
  | some none => throw .cycle
  | none => throw .unknownAnchor

/-- A node with properties gets its name before and after it is read. -/
def naming (p : Properties) (read : Read Node) : Read Node := do
  if let some name := p.anchor then
    if ((← get).anchors.lookup name).isSome then throw .repeatedAnchor
  setAnchor p.anchor none
  let node ← read
  setAnchor p.anchor (some node)
  return node

mutual

/-- A node. Unless it stands inside brackets or braces it may be indented (`block`), and as a value
of a mapping it may be a sequence that is not indented further (`flat`). -/
def node (block flat : Bool) : (fuel : Nat) → Read Node
  | 0 => throw .tooDeep
  | fuel + 1 => do
    if let some (.reference name) ← peek then
      skip
      return ← named name
    let p ← properties
    naming p do
      match ← peek with
      | some .entry =>
        if flat then return .sequence (← mark) (p.collection .seq) (← flatItems fuel)
        else if p.anchor.isSome || p.tag.isSome then return .scalar p.omitted ""
        else throw .nodeExpected
      | some (.scalar isPlain text) =>
        skip
        return .scalar (p.scalar isPlain text) text
      | some .flowSequenceStart =>
        skip
        return .sequence (← mark) (p.collection .seq) (← flowItems fuel true)
      | some .flowMappingStart =>
        skip
        return .mapping (← mark) (p.collection .map) (← flowEntries fuel true)
      | some .sequenceStart =>
        if !block then throw .nodeExpected
        skip
        return .sequence (← mark) (p.collection .seq) (← blockItems fuel)
      | some .mappingStart =>
        if !block then throw .nodeExpected
        skip
        return .mapping (← mark) (p.collection .map) (← blockEntries fuel)
      | _ =>
        if p.anchor.isSome || p.tag.isSome then return .scalar p.omitted "" else throw .nodeExpected

/-- A node, unless one of some tokens is next: then it is left out. -/
def nodeUnless (ends : List Token) (block flat : Bool) : (fuel : Nat) → Read Node
  | 0 => throw .tooDeep
  | fuel + 1 => do
    match ← peek with
    | some t => if ends.contains t then return .empty else node block flat fuel
    | none => node block flat fuel

/-- The items of an indented sequence. -/
def blockItems : (fuel : Nat) → Read (List Node)
  | 0 => throw .tooDeep
  | fuel + 1 => do
    if ← accept .blockEnd then return []
    if !(← accept .entry) then throw .entryExpected
    let item ← nodeUnless [.entry, .blockEnd] true false fuel
    return item :: (← blockItems fuel)

/-- The items of a sequence that is not indented further than the mapping around. -/
def flatItems : (fuel : Nat) → Read (List Node)
  | 0 => throw .tooDeep
  | fuel + 1 => do
    if !(← accept .entry) then return []
    let item ← nodeUnless [.entry, .key, .value, .blockEnd] true false fuel
    return item :: (← flatItems fuel)

/-- The entries of an indented mapping. -/
def blockEntries : (fuel : Nat) → Read (List (Node × Node))
  | 0 => throw .tooDeep
  | fuel + 1 => do
    if ← accept .blockEnd then return []
    if !(← accept .key) then throw .keyExpected
    let key ← nodeUnless [.key, .value, .blockEnd] true true fuel
    let value ←
      if ← accept .value then nodeUnless [.key, .value, .blockEnd] true true fuel
      else pure .empty
    return (key, value) :: (← blockEntries fuel)

/-- The items of a sequence in brackets. An item that is marked as a key is a mapping with one
entry. -/
def flowItems : (fuel : Nat) → (first : Bool) → Read (List Node)
  | 0, _ => throw .tooDeep
  | fuel + 1, first => do
    if ← accept .flowSequenceEnd then return []
    if !first then
      if !(← accept .flowEntry) then throw .separatorExpected
      if ← accept .flowSequenceEnd then return []
    let item ←
      if ← accept .key then
        let mark ← mark
        -- A mark with nothing behind it is an empty key. The token that shows this goes with it.
        let key ←
          if ← at? [.value, .flowEntry, .flowSequenceEnd] then do
            skip
            pure .empty
          else node false false fuel
        let value ←
          if ← accept .value then nodeUnless [.flowEntry, .flowSequenceEnd] false false fuel
          else pure .empty
        pure (.mapping mark .map [(key, value)])
      else node false false fuel
    return item :: (← flowItems fuel false)

/-- The entries of a mapping in braces. -/
def flowEntries : (fuel : Nat) → (first : Bool) → Read (List (Node × Node))
  | 0, _ => throw .tooDeep
  | fuel + 1, first => do
    if ← accept .flowMappingEnd then return []
    if !first then
      if !(← accept .flowEntry) then throw .separatorExpected
      if ← accept .flowMappingEnd then return []
    let entry ←
      if ← accept .key then
        let key ← nodeUnless [.value, .flowEntry, .flowMappingEnd] false false fuel
        let value ←
          if ← accept .value then nodeUnless [.flowEntry, .flowMappingEnd] false false fuel
          else pure .empty
        pure (key, value)
      else pure (← node false false fuel, .empty)
    return entry :: (← flowEntries fuel false)

end

/-- Reads the directives in front of a document. -/
def directives : (fuel : Nat) → (versionSeen : Bool) → Read Unit
  | 0, _ => throw .tooDeep
  | fuel + 1, versionSeen => do
    match ← peek with
    | some (.version major minor) =>
      if versionSeen || major != 1 || (minor != 1 && minor != 2) then throw .version
      skip
      directives fuel true
    | some (.shorthand handle start) =>
      let r ← get
      if (r.handles.lookup handle).isSome then throw .directive
      set { r with tokens := r.tokens.tail, handles := (handle, start) :: r.handles }
      directives fuel versionSeen
    | _ => return

/-- Whether a token begins or ends a document or its directives. -/
def isBoundary : Option Token → Bool
  | none | some .documentStart | some .documentEnd | some (.version ..) | some (.shorthand ..) =>
    true
  | _ => false

/-- The only document, if there is one. -/
def document (fuel : Nat) : Read (Option Node) := do
  if (← peek).isNone then return none
  let root ←
    if isBoundary (← peek) && (← peek) != some .documentEnd then do
      directives fuel false
      if !(← accept .documentStart) then throw .documentExpected
      -- The directives come first: they may give the standard handles another meaning.
      modify fun r => { r with handles := r.handles ++ standardHandles }
      if isBoundary (← peek) then pure .empty else node true false fuel
    else do
      modify fun r => { r with handles := standardHandles }
      node true false fuel
  modify fun r => { r with tokens := r.tokens.dropWhile (· == .documentEnd) }
  if (← peek).isSome then throw .documentExpected
  return some root

end Reader

/-- The only document that tokens make up, if there is one. -/
def Node.ofTokens (ts : List Token) : Except Defect (Option Node) := do
  return (← (Reader.document (4 * ts.length + 8)).run { tokens := ts, handles := [] }).1

end Curly.Yaml
