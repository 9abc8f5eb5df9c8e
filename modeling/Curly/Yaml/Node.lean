import Curly.Yaml.Tag

/-!
Nodes: the tree that a document stands for, with a tag on every node.
-/

namespace Curly.Yaml

/-- Nodes. A mark tells a collection from the others of its document, wherever it stands. -/
inductive Node
  | scalar (tag : Tag) (text : String)
  | sequence (mark : Nat) (tag : Tag) (items : List Node)
  | mapping (mark : Nat) (tag : Tag) (entries : List (Node × Node))
  deriving Inhabited

/-- What stands where a node is left out. -/
def Node.empty : Node := .scalar .null ""

end Curly.Yaml
