import Curly.Expr.Lexer

/-!
The parser of expressions: recursive descent over lexemes. Every function takes a bound on the
depth of the descent, which `Expr.ofText?` sets from the number of lexemes: between two lexemes the
descent passes each level of precedence at most once.
-/

namespace Curly

/-- A parser: it consumes lexemes, or fails. -/
abbrev Parse := StateT (List Lexeme) Option

namespace Parse

/-- The next lexeme, left in place. -/
def peek : Parse (Option Lexeme) := do return (← get).head?

/-- Leaves out the next lexeme. -/
def skip : Parse Unit := modify (·.drop 1)

/-- Whether the next lexeme is `l`. -/
def sees (l : Lexeme) : Parse Bool := do return (← peek) == some l

/-- Takes the next lexeme if it is `l`. -/
def accept (l : Lexeme) : Parse Bool := do
  if ← sees l then
    skip
    return true
  else return false

/-- Takes the next lexeme, which must be `l`. -/
def expect (l : Lexeme) : Parse Unit := do
  if !(← accept l) then failure

/-- Whether the next lexeme is an operator. -/
def seesOp (w : String) : Parse Bool := sees (.op w)

/-- Takes an operator if it is next. -/
def acceptOp (w : String) : Parse Bool := accept (.op w)

/-- Takes an operator, which must be next. -/
def expectOp (w : String) : Parse Unit := expect (.op w)

/-- Whether the next lexeme is a keyword. -/
def seesWord (w : String) : Parse Bool := sees (.keyword w)

/-- Takes a keyword if it is next. -/
def acceptWord (w : String) : Parse Bool := accept (.keyword w)

/-- Takes a keyword, which must be next. -/
def expectWord (w : String) : Parse Unit := expect (.keyword w)

/-- Takes a name, which must be next. -/
def name : Parse String := do
  match ← peek with
  | some (.name id) =>
    skip
    return id
  | _ => failure

/-- Whether an assignment expression is next that no parentheses enclose. -/
def seesAssign : Parse Bool := do
  match ← get with
  | .name _ :: .op ":=" :: _ => return true
  | _ => return false

/-- Whether a clause of a comprehension is next. -/
def seesClause : Parse Bool := do return (← seesWord "for") || (← seesWord "async")

/-- The binary operators, from the loosest level to the tightest. -/
def binaryLevels : List (List (String × BinaryOp)) :=
  [[("|", .bitOr)], [("^", .bitXor)], [("&", .bitAnd)],
    [("<<", .shiftLeft), (">>", .shiftRight)],
    [("+", .add), ("-", .sub)],
    [("*", .mul), ("/", .div), ("//", .floorDiv), ("%", .mod), ("@", .matMul)]]

/-- Takes a comparison operator if one is next. -/
def compareOp : Parse (Option CompareOp) := do
  match ← get with
  | .op "==" :: _ => skip; return some .eq
  | .op "!=" :: _ => skip; return some .ne
  | .op "<" :: _ => skip; return some .lt
  | .op "<=" :: _ => skip; return some .le
  | .op ">" :: _ => skip; return some .gt
  | .op ">=" :: _ => skip; return some .ge
  | .keyword "in" :: _ => skip; return some .within
  | .keyword "not" :: .keyword "in" :: _ => modify (·.drop 2); return some .notWithin
  | .keyword "is" :: .keyword "not" :: _ => modify (·.drop 2); return some .notSame
  | .keyword "is" :: _ => skip; return some .same
  | _ => return none

/-- Adjacent strings make one literal: all texts or all bytes. It is marked as its first is. -/
def joinStrings : Literal → List Literal → Option Literal
  | l, [] => some l
  | .str s marked, .str t _ :: ls => joinStrings (.str (s ++ t) marked) ls
  | .bytes s, .bytes t :: ls => joinStrings (.bytes (s ++ t)) ls
  | _, _ :: _ => none

/-- The strings in front of a list of lexemes. -/
def leadingStrings : List Lexeme → List Literal
  | .string l :: ls => l :: leadingStrings ls
  | _ => []

/-- Takes the adjacent strings that are next, of which there is at least one. -/
def strings : Parse Expr := do
  match leadingStrings (← get) with
  | [] => failure
  | l :: ls =>
    modify (·.drop (ls.length + 1))
    match joinStrings l ls with
    | some l => return .literal l
    | none => failure

mutual

/-- Whether an expression may be a target: a name, an attribute, a subscript, or a tuple or list
of targets, of which some may be starred. -/
def isTarget : Expr → Bool
  | .name _ | .attribute .. | .subscript .. => true
  | .display .tuple es | .display .list es => areTargets es
  | _ => false

/-- Whether expressions may be the elements of a tuple of targets. -/
def areTargets : List Expr → Bool
  | [] => true
  | .starred e :: es => isTarget e && areTargets es
  | e :: es => isTarget e && areTargets es

end

/-- How far the parameters of a lambda have come: what kind of parameter a plain name is now. -/
structure ParamState where
  params : List Param := []
  /-- A star has been read: what follows can only be named. -/
  starred : Bool := false
  /-- A slash has been read. -/
  slashed : Bool := false
  /-- A parameter with a default has been read: before a star, all others need one too. -/
  defaulted : Bool := false
  /-- A bare star waits for a named parameter. -/
  waiting : Bool := false

mutual

/-- A conditional expression, a lambda, or what binds tighter. -/
def expression : Nat → Parse Expr
  | 0 => failure
  | n + 1 => do
    if ← acceptWord "lambda" then
      let params ← parameters n {}
      expectOp ":"
      return .lambda params (← expression n)
    let body ← disjunction n
    if ← acceptWord "if" then
      let test ← disjunction n
      expectWord "else"
      return .ifElse test body (← expression n)
    return body

/-- An assignment expression or an expression. -/
def namedExpression : Nat → Parse Expr
  | 0 => failure
  | n + 1 => do
    match ← get with
    | .name id :: .op ":=" :: rest =>
      set rest
      return .assign id (← expression n)
    | _ =>
      let e ← expression n
      if ← seesOp ":=" then failure
      return e

/-- An element of a display: starred, or an assignment expression or expression. -/
def element : Nat → Parse Expr
  | 0 => failure
  | n + 1 => do
    if ← acceptOp "*" then return .starred (← binary n 0)
    namedExpression n

/-- Elements up to a closing bracket, with commas between and perhaps after them. -/
def elements : Nat → (close : String) → Parse (List Expr)
  | 0, _ => failure
  | n + 1, close => do
    if ← acceptOp close then return []
    let e ← element n
    if ← acceptOp "," then return e :: (← elements n close)
    expectOp close
    return [e]

/-- Operands of `or`. -/
def disjunction : Nat → Parse Expr
  | 0 => failure
  | n + 1 => do
    let e ← conjunction n
    match ← more n "or" with
    | [] => return e
    | es => return .logical .or (e :: es)

/-- Operands of `and`. -/
def conjunction : Nat → Parse Expr
  | 0 => failure
  | n + 1 => do
    let e ← inversion n
    match ← more n "and" with
    | [] => return e
    | es => return .logical .and (e :: es)

/-- Further operands of a logical connective. -/
def more : Nat → String → Parse (List Expr)
  | 0, _ => failure
  | n + 1, word => do
    if ← acceptWord word then
      let e ← if word == "or" then conjunction n else inversion n
      return e :: (← more n word)
    return []

/-- Negations. -/
def inversion : Nat → Parse Expr
  | 0 => failure
  | n + 1 => do
    if ← acceptWord "not" then return .unary .not (← inversion n)
    let e ← binary n 0
    match ← links n with
    | [] => return e
    | ls => return .compare e ls

/-- The links of a chain of comparisons. -/
def links : Nat → Parse (List Link)
  | 0 => failure
  | n + 1 => do
    match ← compareOp with
    | some op =>
      let e ← binary n 0
      return .mk op e :: (← links n)
    | none => return []

/-- Binary operators of a level or tighter; they group to the left. -/
def binary : Nat → (level : Nat) → Parse Expr
  | 0, _ => failure
  | n + 1, level => do
    if binaryLevels.length ≤ level then factor n
    else binaryRest n level (← binary n (level + 1))

/-- What follows the left operand of a level. -/
def binaryRest : Nat → (level : Nat) → Expr → Parse Expr
  | 0, _, _ => failure
  | n + 1, level, left => do
    match ← peek with
    | some (.op w) =>
      match (binaryLevels[level]?.getD []).lookup w with
      | some op =>
        skip
        let right ← binary n (level + 1)
        binaryRest n level (.binary op left right)
      | none => return left
    | _ => return left

/-- Signs, and powers, which bind tighter on their left. -/
def factor : Nat → Parse Expr
  | 0 => failure
  | n + 1 => do
    if ← acceptOp "+" then return .unary .plus (← factor n)
    if ← acceptOp "-" then return .unary .minus (← factor n)
    if ← acceptOp "~" then return .unary .invert (← factor n)
    let base ← if ← acceptWord "await" then
        let e ← primary n
        pure (Expr.await e)
      else primary n
    if ← acceptOp "**" then return .binary .pow base (← factor n)
    return base

/-- An atom with attributes, subscripts and calls after it. -/
def primary : Nat → Parse Expr
  | 0 => failure
  | n + 1 => do trailers n (← atom n)

/-- Attributes, subscripts and calls of an expression. -/
def trailers : Nat → Expr → Parse Expr
  | 0, _ => failure
  | n + 1, e => do
    if ← acceptOp "." then trailers n (.attribute e (← name))
    else if ← acceptOp "(" then trailers n (.call e (← arguments n))
    else if ← acceptOp "[" then trailers n (.subscript e (← subscripts n))
    else return e

/-- Names, literals, and what stands in brackets. -/
def atom : Nat → Parse Expr
  | 0 => failure
  | n + 1 => do
    match ← peek with
    | some (.name id) => skip; return .name id
    | some (.number l) => skip; return .literal l
    | some (.string _) => strings
    | some (.keyword "True") => skip; return .literal (.bool true)
    | some (.keyword "False") => skip; return .literal (.bool false)
    | some (.keyword "None") => skip; return .literal .none
    | some (.op "...") => skip; return .literal .ellipsis
    | some (.op "(") => skip; parenthesized n
    | some (.op "[") => skip; bracketed n
    | some (.op "\x7b") => skip; braced n
    | _ => failure

/-- What follows an opening parenthesis: a tuple, a generator or a group. -/
def parenthesized : Nat → Parse Expr
  | 0 => failure
  | n + 1 => do
    if ← acceptOp ")" then return .display .tuple []
    let e ← element n
    let isStarred := match e with
      | .starred _ => true
      | _ => false
    if ← acceptOp "," then return .display .tuple (e :: (← elements n ")"))
    -- A starred element stands in a tuple only, which the comma would have made.
    if isStarred then failure
    if ← seesClause then
      let cs ← clauses n
      expectOp ")"
      return .comprehension .generator e none cs
    expectOp ")"
    return e

/-- What follows an opening square bracket: a list. -/
def bracketed : Nat → Parse Expr
  | 0 => failure
  | n + 1 => do
    if ← acceptOp "]" then return .display .list []
    let e ← element n
    let isStarred := match e with
      | .starred _ => true
      | _ => false
    if ← acceptOp "," then return .display .list (e :: (← elements n "]"))
    if !isStarred && (← seesClause) then
      let cs ← clauses n
      expectOp "]"
      return .comprehension .list e none cs
    expectOp "]"
    return .display .list [e]

/-- What follows an opening brace: a dictionary or a set. -/
def braced : Nat → Parse Expr
  | 0 => failure
  | n + 1 => do
    if ← acceptOp "\x7d" then return .dict []
    if ← seesOp "**" then return .dict (← dictItems n)
    -- An assignment may be an element of a set, but not a key.
    let assigns ← seesAssign
    let e ← element n
    let mayBeElement := match e with
      | .starred _ => false
      | _ => true
    if mayBeElement && !assigns && (← acceptOp ":") then
      let v ← expression n
      if ← seesClause then
        let cs ← clauses n
        expectOp "\x7d"
        return .comprehension .dict e (some v) cs
      if ← acceptOp "," then return .dict (.entry e v :: (← dictItems n))
      expectOp "\x7d"
      return .dict [.entry e v]
    if ← acceptOp "," then return .display .set (e :: (← elements n "\x7d"))
    if mayBeElement && (← seesClause) then
      let cs ← clauses n
      expectOp "\x7d"
      return .comprehension .set e none cs
    expectOp "\x7d"
    return .display .set [e]

/-- Dictionary items up to the closing brace. -/
def dictItems : Nat → Parse (List DictItem)
  | 0 => failure
  | n + 1 => do
    if ← acceptOp "\x7d" then return []
    let item ← if ← acceptOp "**" then
        let e ← binary n 0
        pure (DictItem.spread e)
      else do
        let k ← expression n
        expectOp ":"
        let v ← expression n
        pure (DictItem.entry k v)
    if ← acceptOp "," then return item :: (← dictItems n)
    expectOp "\x7d"
    return [item]

/-- Clauses of a comprehension. -/
def clauses : Nat → Parse (List Clause)
  | 0 => failure
  | n + 1 => do
    let asynchronous ← acceptWord "async"
    expectWord "for"
    let target ← targets n
    expectWord "in"
    let iterable ← disjunction n
    let ifs ← tests n
    let c := Clause.mk asynchronous target iterable ifs
    if ← seesClause then return c :: (← clauses n)
    return [c]

/-- The tests of a clause. -/
def tests : Nat → Parse (List Expr)
  | 0 => failure
  | n + 1 => do
    if ← acceptWord "if" then
      let e ← disjunction n
      return e :: (← tests n)
    return []

/-- The target of a clause: one target, or several with commas, which make a tuple. -/
def targets : Nat → Parse Expr
  | 0 => failure
  | n + 1 => do
    let e ← target n
    if ← acceptOp "," then return .display .tuple (e :: (← targetRest n))
    return e

/-- Further targets up to the word `in`. -/
def targetRest : Nat → Parse (List Expr)
  | 0 => failure
  | n + 1 => do
    if ← seesWord "in" then return []
    let e ← target n
    if ← acceptOp "," then return e :: (← targetRest n)
    return [e]

/-- One target, perhaps starred. -/
def target : Nat → Parse Expr
  | 0 => failure
  | n + 1 => do
    let starred ← acceptOp "*"
    let e ← primary n
    if isTarget e then return if starred then .starred e else e
    failure

/-- The index of a subscript up to its closing bracket: one, or several that make a tuple. -/
def subscripts : Nat → Parse Expr
  | 0 => failure
  | n + 1 => do
    let e ← subscriptItem n
    let isStarred := match e with
      | .starred _ => true
      | _ => false
    if ← acceptOp "," then return .display .tuple (e :: (← subscriptRest n))
    expectOp "]"
    return if isStarred then .display .tuple [e] else e

/-- Further items of a subscript. -/
def subscriptRest : Nat → Parse (List Expr)
  | 0 => failure
  | n + 1 => do
    if ← acceptOp "]" then return []
    let e ← subscriptItem n
    if ← acceptOp "," then return e :: (← subscriptRest n)
    expectOp "]"
    return [e]

/-- An item of a subscript: a slice, starred, or an index. -/
def subscriptItem : Nat → Parse Expr
  | 0 => failure
  | n + 1 => do
    if ← acceptOp "*" then return .starred (← expression n)
    let assigns ← seesAssign
    let lower ← if ← seesOp ":" then pure none else
      let e ← namedExpression n
      pure (some e)
    if ← acceptOp ":" then
      if assigns then failure
      let upper ← sliceBound n
      let step ← if ← acceptOp ":" then sliceBound n else pure none
      return .slice lower upper step
    match lower with
    | some e => return e
    | none => failure

/-- A bound of a slice, which may be missing. -/
def sliceBound : Nat → Parse (Option Expr)
  | 0 => failure
  | n + 1 => do
    if (← seesOp ":") || (← seesOp ",") || (← seesOp "]") then return none
    return some (← expression n)

/-- The arguments of a call up to its closing parenthesis. A generator may stand alone. -/
def arguments : Nat → Parse (List Argument)
  | 0 => failure
  | n + 1 => do
    match ← get with
    | .op ")" :: rest => set rest; return []
    | .op "*" :: _ | .op "**" :: _ | .name _ :: .op "=" :: _ => positionals n
    | _ =>
      let e ← namedExpression n
      -- A generator without parentheses of its own is the only argument.
      if ← seesClause then
        let cs ← clauses n
        expectOp ")"
        return [.positional (.comprehension .generator e none cs)]
      if ← acceptOp "," then return .positional e :: (← positionals n)
      expectOp ")"
      return [.positional e]

/-- Positional arguments, then the others; those that are positional come first in the result. -/
def positionals : Nat → Parse (List Argument)
  | 0 => failure
  | n + 1 => do
    match ← get with
    | .op ")" :: rest => set rest; return []
    | .op "**" :: _ | .name _ :: .op "=" :: _ =>
      let (stars, named) ← keywordArguments n false
      return stars ++ named
    | _ =>
      let e ← if ← acceptOp "*" then
          let e ← expression n
          pure (Expr.starred e)
        else namedExpression n
      if ← acceptOp "," then return .positional e :: (← positionals n)
      expectOp ")"
      return [.positional e]

/-- Arguments from the first named one on: named ones, starred ones before the first spread, and
spreads. The starred ones are returned apart. -/
def keywordArguments : Nat → (spread : Bool) → Parse (List Argument × List Argument)
  | 0, _ => failure
  | n + 1, spread => do
    match ← get with
    | .op ")" :: rest => set rest; return ([], [])
    | .name id :: .op "=" :: rest =>
      set rest
      let e ← expression n
      let (stars, named) ← keywordRest n spread
      return (stars, .keyword id e :: named)
    | .op "**" :: rest =>
      set rest
      let e ← expression n
      let (stars, named) ← keywordRest n true
      return (stars, .spread e :: named)
    | .op "*" :: rest =>
      -- Behind a spread no starred argument is left to come.
      if spread then failure
      set rest
      let e ← expression n
      let (stars, named) ← keywordRest n false
      return (.positional (.starred e) :: stars, named)
    | _ => failure

/-- What follows an argument from the first named one on. -/
def keywordRest : Nat → (spread : Bool) → Parse (List Argument × List Argument)
  | 0, _ => failure
  | n + 1, spread => do
    if ← acceptOp "," then keywordArguments n spread
    else
      expectOp ")"
      return ([], [])

/-- The parameters of a lambda up to its colon, which stays. -/
def parameters : Nat → ParamState → Parse (List Param)
  | 0, _ => failure
  | n + 1, s => do
    match ← get with
    | .op ":" :: _ => if s.waiting then failure else return s.params
    | .op "/" :: rest =>
      if s.slashed || s.starred || s.params.isEmpty then failure
      set rest
      paramRest n { s with
        slashed := true
        params := s.params.map fun p => .mk .positionalOnly p.name p.fallback }
    | .op "**" :: .name id :: rest =>
      if s.waiting then failure
      set rest
      let _ ← acceptOp ","
      if ← seesOp ":" then return s.params ++ [.mk .keywords id none]
      failure
    | .op "*" :: .name id :: rest =>
      if s.starred then failure
      set rest
      paramRest n { s with
        starred := true
        params := s.params ++ [.mk .variadic id none] }
    | .op "*" :: .op "," :: rest =>
      if s.starred then failure
      set rest
      -- A lone star waits for a parameter that only a keyword reaches.
      parameters n { s with starred := true, waiting := true }
    | .name id :: rest =>
      set rest
      let fallback ← if ← acceptOp "=" then
          let e ← expression n
          pure (some e)
        else pure none
      -- Behind a default, a parameter without one can be reached by its keyword only.
      if !s.starred && s.defaulted && fallback.isNone then failure
      paramRest n { s with
        params := s.params ++
          [.mk (if s.starred then .keywordOnly else .positional) id fallback]
        defaulted := s.defaulted || (!s.starred && fallback.isSome)
        waiting := false }
    | _ => failure

/-- What follows a parameter. -/
def paramRest : Nat → ParamState → Parse (List Param)
  | 0, _ => failure
  | n + 1, s => do
    if ← acceptOp "," then parameters n s
    else if ← seesOp ":" then if s.waiting then failure else return s.params
    else failure

end

/-- A whole text: one expression, or several with commas, which make a tuple. -/
def whole (n : Nat) : Parse Expr := do
  let e ← expression n
  if ← acceptOp "," then
    let es ← wholeRest n
    return .display .tuple (e :: es)
  if (← get).isEmpty then return e
  failure
where
  /-- Further expressions to the end of the text. -/
  wholeRest : Nat → Parse (List Expr)
    | 0 => failure
    | m + 1 => do
      if (← get).isEmpty then return []
      let e ← expression n
      if ← acceptOp "," then return e :: (← wholeRest m)
      if (← get).isEmpty then return [e]
      failure

end Parse

/-- The expression that a text writes. -/
def Expr.ofText? (s : List Char) : Option Expr := do
  let ls ← Lexeme.ofText s
  let (e, _) ← (Parse.whole (24 * (ls.length + 2))).run ls
  return e

end Curly
