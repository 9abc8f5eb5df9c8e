import Curly.Term.Form

/-!
Shorthand in free-form expressions: `@index` stands for the index of the innermost loop, and
`x => body` for a lambda. Both are replaced in the text, which leaves strings as they are.
-/

namespace Curly.Shorthand

open Text Text.Unicode Form

/-- What stands in front of a text between its opening quote and the next one that is not escaped:
the rest of the string literal, with its closing quote, and what follows it. -/
def quoted? (quote : Char) : List Char → Option (List Char × List Char)
  | [] => none
  | '\\' :: c :: s =>
    if c = '\n' then none else (quoted? quote s).map fun (a, r) => ('\\' :: c :: a, r)
  | c :: s =>
    if c = quote then some ([c], s)
    else if c = '\\' then none
    else (quoted? quote s).map fun (a, r) => (c :: a, r)

/-- The string literal in front of a text, and what follows it. -/
def stringLiteral? : List Char → Option (List Char × List Char)
  | '\'' :: s => (quoted? '\'' s).map fun (a, r) => ('\'' :: a, r)
  | '"' :: s => (quoted? '"' s).map fun (a, r) => ('"' :: a, r)
  | _ => none

/-- Replaces, outside strings, what `hit?` finds in front of a text; a string is found first and
stays as it is. -/
def substitute (hit? : List Char → Option (List Char × List Char)) (s : List Char) : List Char :=
  match s with
  | [] => []
  | c :: cs =>
    match stringLiteral? (c :: cs) <|> hit? (c :: cs) with
    | some (replacement, rest) =>
      if rest.length ≤ cs.length then replacement ++ substitute hit? rest else replacement
    | none => c :: substitute hit? cs
termination_by s.length

/-- Replaces every `@index` outside strings. -/
def replaceIndex (replacement : List Char) : List Char → List Char :=
  substitute fun s =>
    if startsWithWord "@index".toList s then some (replacement, s.drop 6) else none

/-- The name in front of a text, and what follows it. -/
def name? : List Char → Option (List Char × List Char)
  | [] => none
  | c :: s => if startsName c then some (c :: s.takeWhile isWord, s.dropWhile isWord) else none

/-- What follows an arrow, perhaps after white space. -/
def afterArrow? (s : List Char) : Option (List Char) :=
  match s.dropWhile isSpace with
  | '=' :: '>' :: rest => some rest
  | _ => none

/-- The parameter of an arrow function in front of a text, with or without parentheses, and what
follows the arrow. -/
def arrow? (s : List Char) : Option (List Char × List Char) := do
  match s with
  | '(' :: inner =>
    let (name, rest) ← name? (inner.dropWhile isSpace)
    match rest.dropWhile isSpace with
    | ')' :: rest => return (name, ← afterArrow? rest)
    | _ => none
  | s =>
    let (name, rest) ← name? s
    return (name, ← afterArrow? rest)

/-- Replaces every arrow outside strings. -/
def replaceArrows : List Char → List Char :=
  substitute fun s =>
    (arrow? s).map fun (name, rest) => ("lambda ".toList ++ name ++ [':'], rest)

end Curly.Shorthand
