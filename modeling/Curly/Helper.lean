/-!
The names that generated code is made of: its one parameter, its own variables, and the helpers
that it calls.
-/

namespace Curly

/-- The helpers that generated code calls. -/
inductive Helper
  | escape
  | stringify
  | lookup
  | isArray
  | member
  | resolve
  | strictEqual
  | compare
  deriving DecidableEq, Inhabited

namespace Helper

/-- Every helper. -/
def all : List Helper :=
  [.escape, .stringify, .lookup, .isArray, .member, .resolve, .strictEqual, .compare]

/-- The name of a helper in generated code. -/
def name : Helper → String
  | .escape => "_escape"
  | .stringify => "_stringify"
  | .lookup => "_lookup"
  | .isArray => "_is_array"
  | .member => "_member"
  | .resolve => "_resolve"
  | .strictEqual => "_strict_equal"
  | .compare => "_compare"

/-- The helper with a name. -/
def ofName? (name : String) : Option Helper := all.find? (·.name == name)

end Helper

/-- The parameter of a generated function: the data that a template is rendered with. -/
def contextName : String := "ctx"

/-- The variable of a generated function that gathers the pieces of output. -/
def resultName : String := "result"

/-- The variable that adds one piece of output. -/
def appendName : String := "append_result"

/-- The variable that adds several pieces of output. -/
def extendName : String := "extend_result"

end Curly
