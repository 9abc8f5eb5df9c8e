import Curly.Text.Search
import Curly.Text.Space
import Curly.Token

/-!
The lexer of templates. A template is cut at its markers, `\{\{ … \}\}` and, without escaping,
`\{\{\{ … \}\}\}`; all between two markers is text and is never looked into. A marker ends at the
first closing braces after its opening ones.
-/

namespace Curly

/-- Why a template has no tokens. -/
inductive SyntaxCause
  | notText
  | unclosed
  | noCondition
  | noItems
  | unknownCloser (content : String)
  deriving DecidableEq, Inhabited

/-- A lexical error and its place. -/
structure SyntaxFailure where
  cause : SyntaxCause
  place : Place
  deriving DecidableEq, Inhabited

/-- What a lexical error says. -/
def SyntaxFailure.message (e : SyntaxFailure) : String :=
  match e.cause with
  | .notText => "Template must be a string"
  | .unclosed =>
    s!"Unclosed expression at position {e.place.offset} ({e.place.line}:{e.place.column})"
  | .noCondition => "If directive requires a condition"
  | .noItems => "Each directive requires an items expression"
  | .unknownCloser content => s!"Unknown closing directive: {content}"

namespace Lexer

open Text

/-- The braces that open a marker. -/
def opening : List Char := ['\x7b', '\x7b']

/-- The braces that close a marker. -/
def closing : List Char := ['\x7d', '\x7d']

/-- The braces that close a marker without escaping. -/
def rawClosing : List Char := ['\x7d', '\x7d', '\x7d']

/-- What follows a keyword that stands alone or before a space, trimmed. -/
def argument? (keyword content : List Char) : Option (List Char) :=
  if keyword.isPrefixOf content then
    match content.drop keyword.length with
    | [] => some []
    | ' ' :: rest => some (strip rest)
    | _ :: _ => none
  else none

/-- The kind and the value that the trimmed content of a marker stands for. -/
def classify (content : List Char) : Except SyntaxCause (TokenKind × List Char) :=
  match argument? "#if".toList content with
  | some [] => .error .noCondition
  | some a => .ok (.opener .cond, a)
  | none =>
    match argument? "#each".toList content with
    | some [] => .error .noItems
    | some a => .ok (.opener .each, a)
    | none =>
      if content = "/if".toList then .ok (.closer .cond, [])
      else if content = "/each".toList then .ok (.closer .each, [])
      else if content.head? = some '/' then .error (.unknownCloser (String.ofList content))
      else .ok (.variable, content)

/-- A marker after its two opening braces: whether a third one follows, what the marker holds, and
what follows the marker. -/
def marker? : List Char → Option (Bool × List Char × List Char)
  | '\x7b' :: s => (cut rawClosing s).map fun (content, rest) => (true, content, rest)
  | s => (cut closing s).map fun (content, rest) => (false, content, rest)

theorem length_of_marker? {s content rest : List Char} {raw : Bool}
    (h : marker? s = some (raw, content, rest)) : rest.length < s.length := by
  unfold marker? at h
  split at h
  all_goals
    obtain ⟨⟨b, r⟩, hc, he⟩ := Option.map_eq_some_iff.1 h
    simp only [Prod.mk.injEq] at he
    obtain ⟨-, -, rfl⟩ := he
    have := length_of_cut hc
    simp only [closing, rawClosing, List.length_cons, List.length_nil] at this ⊢
    omega

/-- The characters of a marker. -/
def markerText (raw : Bool) (content : List Char) : List Char :=
  if raw then opening ++ '\x7b' :: content ++ rawClosing else opening ++ content ++ closing

/-- The token of a marker that starts at a place. -/
def token (raw : Bool) (content : List Char) (p : Place) : Except SyntaxFailure Token :=
  let content := strip content
  if raw then .ok ⟨.raw, String.ofList content, p⟩
  else
    match classify content with
    | .ok (kind, value) => .ok ⟨kind, String.ofList value, p⟩
    | .error cause => .error ⟨cause, p⟩

/-- The token of a run of text, if there is one. -/
def textToken (s : List Char) (p : Place) : List Token :=
  if s.isEmpty then [] else [⟨.text, String.ofList s, p⟩]

/-- The tokens of a template whose first character stands at a place. -/
def scan (p : Place) (s : List Char) : Except SyntaxFailure (List Token) :=
  match hs : cut opening s with
  | none => .ok (textToken s p)
  | some (before, inner) =>
    let q := p.advance before
    match hm : marker? inner with
    | none => .error ⟨.unclosed, q⟩
    | some (raw, content, rest) => do
      have : rest.length < s.length := by
        have h₁ := length_of_cut hs
        have h₂ := length_of_marker? hm
        simp only [opening, List.length_cons, List.length_nil] at h₁
        omega
      let t ← token raw content q
      let ts ← scan (q.advance (markerText raw content)) rest
      return textToken before p ++ t :: ts
termination_by s.length

end Lexer

/-- The tokens of a template. -/
def tokenize (template : String) : Except SyntaxFailure (List Token) :=
  Lexer.scan .start template.toList

end Curly
