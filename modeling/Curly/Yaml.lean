import Curly.Yaml.Node.Parser
import Curly.Yaml.Node.Value
import Curly.Yaml.Token.Lexer

/-!
Documents of YAML: a text is read as tokens, the tokens as nodes, and the nodes as data.
-/

namespace Curly.Yaml

/-- The node that a text stands for. An empty text stands for none. -/
def nodeOf (text : String) : Except Defect (Option Node) := do
  Node.ofTokens (← tokenize text.toList)

/-- What a text stands for; none stands for nothing. -/
def load (text : String) : Except Failure Loaded := do
  match ← (nodeOf text).mapError .defect with
  | some n => n.load
  | none => return .plain .none

end Curly.Yaml
