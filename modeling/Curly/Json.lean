import Curly.Text.Quoted
import Curly.Token
import Curly.Tree

/-!
Listings of tokens and trees as JSON, one member or item a line.
-/

namespace Curly

/-- What listings are made of. -/
inductive Json
  | text (value : String)
  | number (value : Nat)
  | list (items : List Json)
  | record (members : List (String × Json))
  deriving Inhabited

namespace Json

/-- A character of a text. Controls are written by letters or codes. -/
def encodeChar (c : Char) : List Char :=
  match c with
  | '"' => ['\\', '"']
  | '\\' => ['\\', '\\']
  | '\n' => ['\\', 'n']
  | '\r' => ['\\', 'r']
  | '\t' => ['\\', 't']
  | '\x08' => ['\\', 'b']
  | '\x0c' => ['\\', 'f']
  | c => if c.toNat < 0x20 then ['\\', 'u'] ++ Text.Quoted.hex 4 c.toNat else [c]

/-- A text in quotes. -/
def encodeText (s : String) : String :=
  String.ofList ('"' :: s.toList.flatMap encodeChar ++ ['"'])

/-- The blanks in front of a line at a depth. -/
def margin (depth : Nat) : String := String.ofList (List.replicate (2 * depth) ' ')

/-- Lines between an opening and a closing mark, which stand side by side around nothing. -/
def enclose (depth : Nat) (opening closing : String) (lines : List String) : String :=
  if lines.isEmpty then opening ++ closing
  else
    let inner := (",\n" ++ margin (depth + 1)).intercalate lines
    opening ++ "\n" ++ margin (depth + 1) ++ inner ++ "\n" ++ margin depth ++ closing

mutual

/-- The text of a listing at a depth. -/
def write (depth : Nat) : Json → String
  | .text value => encodeText value
  | .number value => toString value
  | .list items => enclose depth "[" "]" (writeItems (depth + 1) items)
  | .record members => enclose depth "\x7b" "\x7d" (writeMembers (depth + 1) members)

/-- The texts of items. -/
def writeItems (depth : Nat) : List Json → List String
  | [] => []
  | j :: js => write depth j :: writeItems depth js

/-- The texts of members. -/
def writeMembers (depth : Nat) : List (String × Json) → List String
  | [] => []
  | (name, j) :: js => (encodeText name ++ ": " ++ write depth j) :: writeMembers depth js

end

end Json

/-- A token in a listing. -/
def Token.toJson (t : Token) : Json :=
  .record [("type", .text t.kind.name), ("value", .text t.value), ("line", .number t.place.line),
    ("column", .number t.place.column)]

/-- A listing of tokens. -/
def listTokens (ts : List Token) : String :=
  (Json.record [("tokens", .list (ts.map Token.toJson))]).write 0 ++ "\n"

mutual

/-- A node in a listing. -/
def Node.toJson : Node → Json
  | .text value => .record [("type", .text "Text"), ("value", .text value)]
  | .variable e => .record [("type", .text "Variable"), ("expression", .text e)]
  | .raw e => .record [("type", .text "RawVariable"), ("expression", .text e)]
  | .cond c ns =>
    .record [("type", .text "If"), ("condition", .text c), ("children", .list (nodesToJson ns))]
  | .each i ns =>
    .record [("type", .text "Each"), ("items", .text i), ("children", .list (nodesToJson ns))]
  | .foreign typeName => .record [("type", .text typeName)]

/-- Nodes in a listing. -/
def nodesToJson : List Node → List Json
  | [] => []
  | n :: ns => n.toJson :: nodesToJson ns

end

/-- A listing of a tree. -/
def Tree.list (t : Tree) : String :=
  (Json.record [("type", .text "Root"), ("children", .list (nodesToJson t.children))]).write 0 ++
    "\n"

end Curly
