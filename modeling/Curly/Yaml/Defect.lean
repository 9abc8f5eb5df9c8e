/-!
Defects: what keeps a text from being a document of YAML.
-/

namespace Curly.Yaml

/-- What is wrong with a document. -/
inductive Defect
  /-- A character that no document holds. -/
  | character
  /-- A character that starts no token. -/
  | unexpected
  /-- What has to be a key has no colon behind it. -/
  | keyWithoutColon
  | misplacedEntry
  | misplacedKey
  | misplacedValue
  | tab
  | colon
  | unclosed
  | marker
  | escape
  | header
  | anchorName
  | tagForm
  | directive
  | nodeExpected
  | entryExpected
  | keyExpected
  | separatorExpected
  | documentExpected
  | version
  | unknownHandle
  | unknownAnchor
  | repeatedAnchor
  /-- An alias inside what its anchor names. -/
  | cycle
  | unknownTag
  | kind
  | keyType
  | repeatedKey
  | mergeSource
  | binary
  | tooDeep
  deriving DecidableEq, Inhabited

end Curly.Yaml
