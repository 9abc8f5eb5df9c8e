import Curly.Token
import Curly.Tree

/-!
The parser of templates: a flat list of tokens becomes a strictly nested tree, every opener matched
with its closer.
-/

namespace Curly

/-- Why a list of tokens is no tree. -/
inductive StructureCause
  | notAList
  | unexpected
  | unclosed (block : BlockKind)
  | unknownKind (name : String)
  deriving DecidableEq, Inhabited

/-- A structural error and the token that it is about. -/
structure StructureFailure where
  cause : StructureCause
  token : Option Token
  deriving DecidableEq, Inhabited

/-- What a structural error says. -/
def StructureFailure.message (e : StructureFailure) : String :=
  match e.cause with
  | .notAList => "Tokens must be a list"
  | .unexpected => "Unexpected tokens at end of template"
  | .unclosed block => "Unclosed \x7b\x7b#" ++ block.keyword ++ "\x7d\x7d directive"
  | .unknownKind name => s!"Unknown token type: {name}"

/-- A block node of a kind. -/
def Node.block (kind : BlockKind) (value : String) (children : List Node) : Node :=
  match kind with
  | .cond => .cond value children
  | .each => .each value children

namespace Parser

/-- The siblings at the front of a list of tokens, up to the first closer that closes no block
among them, and the tokens from there on. -/
def siblings (ts : List Token) :
    Except StructureFailure { r : List Node × List Token // r.2.length ≤ ts.length } :=
  match ts with
  | [] => .ok ⟨([], []), Nat.le_refl _⟩
  | t :: rest =>
    match t.kind with
    | .text => do
      let ⟨r, h⟩ ← siblings rest
      return ⟨(.text t.value :: r.1, r.2), Nat.le_succ_of_le h⟩
    | .variable => do
      let ⟨r, h⟩ ← siblings rest
      return ⟨(.variable t.value :: r.1, r.2), Nat.le_succ_of_le h⟩
    | .raw => do
      let ⟨r, h⟩ ← siblings rest
      return ⟨(.raw t.value :: r.1, r.2), Nat.le_succ_of_le h⟩
    | .opener kind => do
      let ⟨r, h⟩ ← siblings rest
      -- The siblings inside stopped at a closer that none of them opened; it has to be this
      -- block's.
      match hr : r.2 with
      | [] => .error ⟨.unclosed kind, some t⟩
      | c :: after =>
        if c.kind = .closer kind then do
          have hlt : after.length < rest.length := by
            have : r.2.length = after.length + 1 := by rw [hr]; rfl
            omega
          let ⟨r', h'⟩ ← siblings after
          return ⟨(.block kind t.value r.1 :: r'.1, r'.2), by
            simp only [List.length_cons]; omega⟩
        else .error ⟨.unclosed kind, some t⟩
    | .closer _ => .ok ⟨([], t :: rest), Nat.le_refl _⟩
    | .other name => .error ⟨.unknownKind name, some t⟩
termination_by ts.length

end Parser

/-- The tree of a list of tokens. -/
def Tree.ofTokens (ts : List Token) : Except StructureFailure Tree := do
  let ⟨(nodes, rest), _⟩ ← Parser.siblings ts
  match rest with
  | [] => return ⟨nodes⟩
  | t :: _ => .error ⟨.unexpected, some t⟩

end Curly
