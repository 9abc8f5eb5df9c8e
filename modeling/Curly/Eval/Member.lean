import Curly.Eval.Iteration
import Curly.Lookup
import Curly.Value.Conversion

/-!
Members: what stands under a name on a value in an expression. A dictionary shows its keys only;
texts and arrays have members of their own besides the methods of their types; all other values
have their attributes.
-/

namespace Curly

/-- The function that a member calls with the value as first argument, and its parameters. -/
def Member.signature : Member → String × List Parameter
  | .split =>
    ("_split", [.required "text", .withDefault "separator" .none, .withDefault "limit" .none])
  | .join => ("_join", [.required "items", .withDefault "separator" (.str ",")])
  | .slice =>
    ("_slice", [.required "value", .withDefault "start" (.int 0), .withDefault "end" .none])
  | .substring =>
    ("_substring", [.required "text", .withDefault "start" (.int 0), .withDefault "end" .none])
  | .charAt => ("_char_at", [.required "text", .withDefault "index" (.int 0)])
  | .indexOf => ("_index_of", [.required "value", .required "needle"])
  | .filter => ("_filter", [.required "items", .required "predicate"])
  | .map => ("_map", [.required "items", .required "transform"])
  | .includes => ("_includes", [.required "value", .required "needle"])

namespace Value

/-- The members of a text. -/
def textMember? (s : String) : String → Option Value
  | "length" => some (.int s.length)
  | "toUpperCase" => some (.method (.str s) "upper")
  | "toLowerCase" => some (.method (.str s) "lower")
  | "trim" => some (.method (.str s) "strip")
  | "split" => some (.member (.str s) .split)
  | "slice" => some (.member (.str s) .slice)
  | "substring" => some (.member (.str s) .substring)
  | "charAt" => some (.member (.str s) .charAt)
  | "includes" => some (.member (.str s) .includes)
  | "indexOf" => some (.member (.str s) .indexOf)
  | _ => Option.none

/-- The members of an array, its length apart. -/
def arrayMember? : String → Option Member
  | "join" => some .join
  | "slice" => some .slice
  | "filter" => some .filter
  | "map" => some .map
  | "includes" => some .includes
  | "indexOf" => some .indexOf
  | _ => Option.none

/-- What stands under a name on a value in an expression. -/
def readMember (v : Value) (name : String) : Except Fault Value :=
  match v with
  | .none => .error (.memberOfNone name)
  | .dict entries => .ok ((field? name entries).getD .none)
  | .str s =>
    match textMember? s name with
    | some w => .ok w
    | Option.none => v.attr name
  | v =>
    if v.isArray then
      if name == "length" then do return .int (← v.length)
      else
        match arrayMember? name with
        | some which => .ok (.member v which)
        | Option.none => v.attr name
    else v.attr name

/-- The text of an item that is joined: nothing for no value. -/
def joinedText : Value → Except Fault String
  | .none => .ok ""
  | v => v.text

/-- Cuts a text at a separator: between all characters if it is empty, not at all if there is
none. -/
def splitAt (text sep limit : Value) : Except Fault Value := do
  let s ← text.textOr .mustBeText
  let parts ← match sep with
    | .none => pure [s]
    | .str sep => pure (if sep.isEmpty then s.map ([·]) else Text.splitAll sep.toList s)
    | v => throw (.mustBeTextOrNone v.typeName)
  match limit with
  | .none => return .list (parts.map ofChars)
  | n => sliceOf (.list (parts.map ofChars)) .none n .none

/-- Joins the items of an array. -/
def joinWith (items : List Value) (sep : Value) : Except Fault Value := do
  match sep with
  | .str sep =>
    let texts ← items.mapM joinedText
    return .str (String.intercalate sep texts)
  | .bytes _ =>
    match ← items.mapM joinedText with
    | [] => return .bytes []
    | _ => throw (.bytesItem 0 (Value.str "").typeName)
  | v =>
    let _ ← v.attr "join"
    throw (.unsupported (v.typeName ++ ".join"))

/-- An integer brought between zero and a length. -/
def clamped (n : Nat) (v : Value) : Except Fault Nat := do
  match ← v.toInteger with
  | .int i => return min i.toNat n
  | _ => return 0

/-- The part of a text between two positions, in whatever order they come. -/
def substring (text start stop : Value) : Except Fault Value := do
  let s ← text.textOr .mustBeText
  let i ← start.clamped s.length
  let j ← match stop with
    | .none => pure s.length
    | v => v.clamped s.length
  return ofChars ((s.take (max i j)).drop (min i j))

/-- The character at a position, or nothing. -/
def charAt (text index : Value) : Except Fault Value := do
  let s ← text.textOr .mustBeText
  match ← index.toInteger with
  | .int i =>
    if i < 0 then return .str ""
    else return ofChars (s[i.toNat]?).toList
  | _ => return .str ""

/-- Where a value first occurs, or minus one. -/
def indexOf (v needle : Value) : Except Fault Value := do
  let place? ← match v with
    | .str s => do
      let pat ← needle.textOr .mustBeText
      pure (Text.find pat s.toList)
    | v => pure ((v.items?.getD []).findIdx? (equal · needle))
  return .int ((place?.map Int.ofNat).getD (-1))

end Value

namespace Eval

/-- The items of which a function gives something true. -/
def keep (h : Hooks) (f : Value) : List Value → Eval (List Value)
  | [] => return []
  | v :: vs => do
    let kept := (← h.call f (.ofList [v])).isTrue
    let rest ← keep h f vs
    return if kept then v :: rest else rest

/-- What a function gives of every item. -/
def mapped (h : Hooks) (f : Value) : List Value → Eval (List Value)
  | [] => return []
  | v :: vs => do
    let w ← h.call f (.ofList [v])
    return w :: (← mapped h f vs)

/-- Calls a member of a value. -/
def callMember (h : Hooks) (v : Value) (which : Member) (a : Arguments) : Eval Value := do
  let (function, params) := which.signature
  let args ← ofExcept
    (({ a with positional := v :: a.positional } : Arguments).values function params)
  match which, args with
  | .split, [text, sep, limit] => ofExcept (Value.splitAt text sep limit)
  | .join, [items, sep] => ofExcept (Value.joinWith (items.items?.getD []) sep)
  | .slice, [v, start, stop] => ofExcept (v.sliceOf start stop .none)
  | .substring, [text, start, stop] => ofExcept (Value.substring text start stop)
  | .charAt, [text, index] => ofExcept (Value.charAt text index)
  | .indexOf, [v, needle] => ofExcept (v.indexOf needle)
  | .filter, [items, f] => return .list (← keep h f (items.items?.getD []))
  | .map, [items, f] => return .list (← mapped h f (items.items?.getD []))
  | .includes, [v, needle] => return .bool (← contains h v needle)
  | _, _ => throw (.unsupported function)

end Eval

/-- The function behind a helper, and its parameters. -/
def Helper.signature : Helper → String × List Parameter
  | .escape => ("escape_html", [.required "value"])
  | .stringify => ("stringify", [.required "value"])
  | .lookup => ("deep_get", [.required "obj", .required "path"])
  | .isArray => ("is_array_like", [.required "value"])
  | .member => ("member", [.required "value", .required "name"])
  | .resolve => ("resolve_name", [.required "context", .required "name"])
  | .strictEqual => ("strict_equal", [.required "left", .required "right"])
  | .compare => ("compare", [.required "op", .required "left", .required "right"])

/-- Applies a helper to its arguments. -/
def Helper.apply (which : Helper) (args : List Value) : Except Fault Value :=
  match which, args with
  | .escape, [v] => .str <$> v.escaped
  | .stringify, [v] => .str <$> v.stringify
  | .lookup, [v, .str path] => v.lookup path
  | .isArray, [v] => .ok (.bool v.isArray)
  | .member, [v, .str name] => v.readMember name
  | .resolve, [context, .str name] => .ok (context.resolve name)
  | .strictEqual, [a, b] => .ok (.bool (a.strictEqual b))
  | .compare, [op, a, b] => .bool <$> Value.compareBy op a b
  | h, _ => .error (.unsupported h.signature.1)

/-- Calls a helper. -/
def Helper.call (which : Helper) (a : Arguments) : Except Fault Value := do
  let (function, params) := which.signature
  which.apply (← a.values function params)

end Curly
