import Curly.Fault
import Curly.Number.Layout
import Curly.Value

/-!
The texts of values: the written form, in which a text has quotes, and the plain form, in which it
has none. An integer with too many digits has neither.
-/

namespace Curly.Value

/-- The text of an integer. -/
def integerText (n : Int) : Except Fault String :=
  if n.natAbs < Nat.pow 10 Reading.digitLimit then .ok (toString n) else .error (.numberTooLong Option.none)

/-- The text of what is shown by its kind and name alone. -/
def opaqueText (kind name : String) : String := s!"<{kind} {name}>"

mutual

/-- The written form of a value. -/
def written : Value → Except Fault String
  | .none => .ok "None"
  | .bool b => .ok (if b then "True" else "False")
  | .int n => integerText n
  | .float x => .ok (FloatLayout.value.write x)
  | .imaginary x =>
    .ok ((FloatLayout.mk (-4) 16 "" "inf" "nan").write x ++ "j")
  | .str s => .ok (Text.Quoted.ofString s)
  | .bytes b => .ok (String.ofList (Text.Quoted.encodeBytes b))
  | .list items => do return "[" ++ String.intercalate ", " (← writtenAll items) ++ "]"
  | .tuple items => do
    match ← writtenAll items with
    -- The comma tells a tuple of one from an item in parentheses.
    | [s] => return "(" ++ s ++ ",)"
    | ss => return "(" ++ String.intercalate ", " ss ++ ")"
  | .set items => do
    match ← writtenAll items with
    | [] => return "set()"
    | ss => return "\x7b" ++ String.intercalate ", " ss ++ "\x7d"
  | .dict entries => do
    return "\x7b" ++ String.intercalate ", " (← writtenEntries entries) ++ "\x7d"
  | .range start stop step => do
    let bounds := (← integerText start) ++ ", " ++ (← integerText stop)
    if step = 1 then return "range(" ++ bounds ++ ")"
    return "range(" ++ bounds ++ ", " ++ (← integerText step) ++ ")"
  | .object fields => do
    return "namespace(" ++ String.intercalate ", " (← writtenFields fields) ++ ")"
  | .ellipsis => .ok "Ellipsis"
  | .slice lower upper step => do
    let lower ← written lower
    let upper ← written upper
    return "slice(" ++ lower ++ ", " ++ upper ++ ", " ++ (← written step) ++ ")"
  | .closure _ name .. => .ok (opaqueText "function" name)
  | .helper h => .ok (opaqueText "function" h.name)
  | .builtin name => .ok (opaqueText "built-in function" name)
  | .type name => .ok (opaqueText "class" (Text.Quoted.ofString name))
  | .method _ name => .ok (opaqueText "built-in method" name)
  | .member .. => .ok (opaqueText "partial" "member")
  | .iterator _ typeName => .ok (opaqueText typeName "object")
  | .output => .ok (opaqueText "list" "object")
  | .descriptor typeName name =>
    .ok (opaqueText "method" (Text.Quoted.ofString name ++ " of " ++ Text.Quoted.ofString typeName ++
      " objects"))

/-- The written forms of several values. -/
def writtenAll : List Value → Except Fault (List String)
  | [] => .ok []
  | v :: vs => do
    let s ← written v
    return s :: (← writtenAll vs)

/-- The written forms of the entries of a dictionary. -/
def writtenEntries : List (Value × Value) → Except Fault (List String)
  | [] => .ok []
  | (k, v) :: es => do
    let k ← written k
    let v ← written v
    return (k ++ ": " ++ v) :: (← writtenEntries es)

/-- The written forms of the fields of an object. -/
def writtenFields : List (String × Value) → Except Fault (List String)
  | [] => .ok []
  | (name, v) :: fs => do
    let v ← written v
    return (name ++ "=" ++ v) :: (← writtenFields fs)

end

/-- The plain form of a value: a text as it is, all else as it is written. -/
def text : Value → Except Fault String
  | .str s => .ok s
  | v => v.written

/-- The text of a value in the output: nothing for no value, and whole numbers without a
fraction. -/
def stringify : Value → Except Fault String
  | .none => .ok ""
  | .float x =>
    match x.toRat? with
    | some q => if q.den = 1 then integerText q.num else .ok (FloatLayout.value.write x)
    | Option.none => .ok (FloatLayout.value.write x)
  | v => v.text

end Curly.Value

namespace Curly

/-- The characters that mean something in HTML, with what stands for them. The ampersand comes
first, for it stands in what is written for the others. -/
def htmlEntities : List (Char × String) :=
  [('&', "&amp;"), ('<', "&lt;"), ('>', "&gt;"), ('"', "&quot;"), ('\'', "&#39;")]

/-- Replaces every occurrence of a character. -/
def replaceChar (c : Char) (entity : String) (s : List Char) : List Char :=
  s.flatMap fun d => if d = c then entity.toList else [d]

/-- A text in HTML: the characters are replaced one after the other. -/
def escapeHtml (s : List Char) : List Char :=
  htmlEntities.foldl (fun s (c, entity) => replaceChar c entity s) s

/-- The text of a value in the output, in HTML. -/
def Value.escaped (v : Value) : Except Fault String :=
  return String.ofList (escapeHtml (← v.stringify).toList)

end Curly
