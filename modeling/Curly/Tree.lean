/-!
Trees of templates: text, markers, and blocks that hold further nodes.
-/

namespace Curly

/-- A node of a template. A tree that was not parsed from tokens may hold nodes of no known type;
they are `foreign`. -/
inductive Node
  | text (value : String)
  | variable (expression : String)
  | raw (expression : String)
  | cond (condition : String) (children : List Node)
  | each (items : String) (children : List Node)
  | foreign (typeName : String)
  deriving Inhabited

/-- A whole template. -/
structure Tree where
  children : List Node
  deriving Inhabited

end Curly
