import Curly.Fault
import Curly.Text.Search

/-!
Files: what stands under a path, how its bytes become a text, and trees of files.
-/

namespace Curly

/-- What stands under a path. -/
inductive FileState
  | file (bytes : List UInt8)
  | directory
  | missing
  /-- Something on the way is no directory. -/
  | blocked
  /-- A file that may not be read. -/
  | denied
  /-- A directory on the way that may not be searched. -/
  | hidden
  /-- The path is too long, or a name on the way is. -/
  | nameTooLong
  deriving DecidableEq, Inhabited

/-- The bytes under a path. -/
def FileState.bytes : FileState → Except FileProblem (List UInt8)
  | .file bytes => .ok bytes
  | .directory => .error .directory
  | .missing => .error .missing
  | .blocked => .error .blocked
  | .denied | .hidden => .error .denied
  | .nameTooLong => .error .nameTooLong

/-- Whether a file stands under a path, or why the system does not tell. -/
def FileState.isFile : FileState → Except FileProblem Bool
  | .file _ | .denied => .ok true
  | .directory | .missing | .blocked => .ok false
  | .hidden => .error .denied
  | .nameTooLong => .error .nameTooLong

/-! ## Paths -/

/-- The names of a path, without those that change nothing. -/
def pathNames (path : String) : List String :=
  ((Text.splitAll ['/'] path.toList).map String.ofList).filter fun n => n != "" && n != "."

/-- How a path begins that starts at the root. Exactly two strokes are kept. -/
def pathRoot (path : String) : String :=
  match (path.toList.takeWhile (· == '/')).length with
  | 0 => ""
  | 2 => "//"
  | _ => "/"

/-- The plain form of a path. -/
def plainPath (path : String) : String :=
  let plain := pathRoot path ++ "/".intercalate (pathNames path)
  if plain.isEmpty then "." else plain

/-! ## Texts -/

/-- Line ends as line feeds. -/
def unifyLines : List Char → List Char
  | [] => []
  | '\r' :: '\n' :: cs => '\n' :: unifyLines cs
  | c :: cs => (if c == '\r' then '\n' else c) :: unifyLines cs

/-- No carriage return is left. -/
theorem not_mem_unifyLines (s : List Char) : '\r' ∉ unifyLines s := by
  fun_induction unifyLines s with
  | case1 => simp
  | case2 cs ih => simp [ih]
  | case3 c cs _ ih =>
    simp only [List.mem_cons, ih, or_false]
    split
    · decide
    · next h => intro e; simp [← e] at h

/-- Whether bytes begin with a mark of their order. -/
def hasByteOrder : List UInt8 → Bool
  | 0xFF :: 0xFE :: _ => true
  | 0xFE :: 0xFF :: _ => true
  | _ => false

/-- The text that the bytes of a file stand for in an encoding. Where the encoding leaves the order
of bytes open a file has to tell it. -/
def decodeFile (encoding : String) (bytes : List UInt8) : Except Fault String := do
  let e ← encodingNamed "open" encoding
  let s ← (e.decode bytes).mapError .undecodable
  if e = .utf16 && !bytes.isEmpty && !hasByteOrder bytes then throw .noByteOrder
  return String.ofList (unifyLines s)

/-- Why a file cannot be read: it cannot be opened, or its bytes are no text. -/
inductive ReadFailure
  | problem (problem : FileProblem)
  | fault (fault : Fault)
  deriving DecidableEq, Inhabited

/-- Reads the text of a file. The names of the encoding and of the file are checked first. -/
def readFile (find : String → FileState) (path encoding : String) : Except ReadFailure String := do
  if encoding.contains '\x00' then throw (.fault .nullCharacter)
  if path.contains '\x00' then throw (.fault .nullByte)
  let bytes ← (find path).bytes.mapError .problem
  (decodeFile encoding bytes).mapError .fault

/-! ## Trees of files -/

/-- How many bytes a name may have. -/
def nameLimit : Nat := 255

/-- How many bytes a path may have. -/
def pathLimit : Nat := 4095

/-- The files below a directory, each under the names that lead to it. -/
structure FileTree where
  files : List (List String × List UInt8) := []
  deriving Inhabited

namespace FileTree

/-- Whether names lead to a directory. -/
def isDirectory (t : FileTree) (names : List String) : Bool :=
  names.isEmpty || t.files.any fun (path, _) => names.isPrefixOf path && names != path

/-- What names lead to from a directory; the names that lead to this one are given backwards. -/
def walk (t : FileTree) : (here : List String) → List String → FileState
  | here, [] =>
    if t.isDirectory here.reverse then .directory
    else match t.files.lookup here.reverse with
      | some bytes => .file bytes
      | none => .missing
  | here, n :: ns =>
    if t.isDirectory here.reverse then
      if nameLimit < n.utf8ByteSize then .nameTooLong
      else t.walk (if n == ".." then here.tail else n :: here) ns
    else if (t.files.lookup here.reverse).isSome then .blocked
    else .missing

/-- What stands under a path. Nothing stands outside of the tree. -/
def find (t : FileTree) (path : String) : FileState :=
  if pathLimit < path.utf8ByteSize then .nameTooLong
  else if pathRoot path != "" then walk {} [] (pathNames path)
  else t.walk [] (pathNames path)

end FileTree

end Curly
