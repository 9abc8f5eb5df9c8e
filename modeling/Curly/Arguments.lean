import Curly.Fault
import Curly.Value

/-!
Arguments: what a call hands over, by position and by keyword. Functions with named parameters bind
them; built-in ones count them, each in one of a few manners that show in what is said of a
misfit.
-/

namespace Curly

/-- The arguments of a call. -/
structure Arguments where
  positional : List Value := []
  keywords : List (String × Value) := []
  deriving Inhabited

/-- A parameter, with the value that it has by default. -/
structure Parameter where
  kind : ParamKind
  name : String
  fallback : Option Value := none
  deriving Inhabited

namespace Parameter

/-- A parameter that takes an argument by position or by keyword. -/
def required (name : String) : Parameter := { kind := .positional, name := name }

/-- A parameter with a default. -/
def withDefault (name : String) (v : Value) : Parameter :=
  { kind := .positional, name := name, fallback := some v }

/-- Whether a parameter takes an argument by position. -/
def isPositional (p : Parameter) : Bool := p.kind == .positionalOnly || p.kind == .positional

/-- Whether a parameter takes an argument by keyword. -/
def isNamed (p : Parameter) : Bool := p.kind == .positional || p.kind == .keywordOnly

/-- The names of the parameters that have neither an argument nor a default. -/
def missing (bound : List (String × Value)) (ps : List Parameter) : List String :=
  (ps.filter fun p => p.fallback.isNone && (bound.lookup p.name).isNone).map (·.name)

end Parameter

namespace Arguments

/-- Arguments by position alone. -/
def ofList (vs : List Value) : Arguments := { positional := vs }

/-- How many arguments are given by position. -/
def count (a : Arguments) : Nat := a.positional.length

/-- Binds one keyword to a parameter, or puts it aside for the one that takes all others. -/
def bindKeyword (function : String) (ps : List Parameter) (keywords : List String)
    (done : List (String × Value) × List (Value × Value)) (k : String × Value) :
    Except Fault (List (String × Value) × List (Value × Value)) :=
  let (bound, others) := done
  if ps.any fun p => p.isNamed && p.name == k.1 then
    if (bound.lookup k.1).isSome then .error (.arity function (.multipleValues k.1))
    else .ok (bound ++ [k], others)
  else if ps.any (·.kind == .keywords) then .ok (bound, others ++ [(.str k.1, k.2)])
  else
    let misplaced := ps.filter fun p => p.kind == .positionalOnly && keywords.contains p.name
    if misplaced.isEmpty then .error (.arity function (.unexpectedKeyword k.1))
    else .error (.arity function (.positionalOnly (misplaced.map (·.name))))

/-- Binds arguments to parameters: those by position in order, then those by keyword, then the
defaults. Of several misfits the first in this order is reported. -/
def bind (a : Arguments) (function : String) (ps : List Parameter) :
    Except Fault (List (String × Value)) := do
  let places := ps.filter Parameter.isPositional
  let extra := a.positional.drop places.length
  let placed := (places.map (·.name)).zip a.positional
  -- Keywords find their parameters before the places are counted: an unexpected keyword is reported
  -- ahead of too many arguments.
  let (bound, others) ←
    a.keywords.foldlM (bindKeyword function ps (a.keywords.map (·.1))) (placed, [])
  let named := ps.filter (·.kind == .keywordOnly)
  if !extra.isEmpty && !ps.any (·.kind == .variadic) then
    let least := (places.filter (·.fallback.isNone)).length
    let given := (named.filter fun p => (bound.lookup p.name).isSome).length
    throw (.arity function (.tooMany least places.length a.count given))
  let lacking := Parameter.missing bound places
  if !lacking.isEmpty then throw (.arity function (.missing false lacking))
  let lacking := Parameter.missing bound named
  if !lacking.isEmpty then throw (.arity function (.missing true lacking))
  return ps.filterMap fun p =>
    match p.kind with
    | .variadic => some (p.name, .tuple extra)
    | .keywords => some (p.name, .dict others)
    | _ => ((bound.lookup p.name).or p.fallback).map (p.name, ·)

/-- The values that parameters get, in the order of the parameters. -/
def values (a : Arguments) (function : String) (ps : List Parameter) :
    Except Fault (List Value) :=
  (·.map (·.2)) <$> a.bind function ps

/-- Refuses keywords. -/
def noKeywords (a : Arguments) (function : String) : Except Fault Unit :=
  if a.keywords.isEmpty then .ok () else .error (.arity function .noKeywords)

/-- Refuses all arguments. -/
def empty (a : Arguments) (function : String) : Except Fault Unit := do
  a.noKeywords function
  if a.count = 0 then return else throw (.arity function (.none a.count))

/-- The only argument. -/
def single (a : Arguments) (function : String) : Except Fault Value := do
  a.noKeywords function
  match a.positional with
  | [v] => return v
  | vs => throw (.arity function (.exactly 1 vs.length))

/-- Between `least` and `most` arguments, counted in words of `expected`. -/
def expect (a : Arguments) (function : String) (least most : Nat) : Except Fault (List Value) :=
  let n := a.count
  if least ≤ n ∧ n ≤ most then .ok a.positional
  else if least = most then .error (.arity function (.expected least n))
  else if n < least then .error (.arity function (.expectedAtLeast least n))
  else .error (.arity function (.expectedAtMost most n))

/-- Between `least` and `most` arguments, counted in words of `takes`. -/
def take (a : Arguments) (function : String) (least most : Nat) : Except Fault (List Value) :=
  let n := a.count
  if n < least then .error (.arity function (.atLeast least n))
  else if most < n then .error (.arity function (.atMost most n))
  else .ok a.positional

/-- Too many arguments: what is said of it hangs on whether one is given by position. -/
def excess (a : Arguments) (function : String) (most : Nat) : Fault :=
  let n := a.count + a.keywords.length
  .arity function (if a.count = 0 then .atMostKeywords most n else .atMost most n)

/-- The values of parameters, of which the first ones are required, and the first ones may be given
by position. -/
def named (a : Arguments) (function : String) (names : List String) (required placed : Nat) :
    Except Fault (List (Option Value)) := do
  if names.length < a.count + a.keywords.length then throw (a.excess function names.length)
  if placed < a.count then throw (.arity function (.atMostPositional placed a.count))
  let lacks : String × Nat → Bool
    | (name, i) => i < required && (a.keywords.lookup name).isNone
  if let some (name, i) := (names.zipIdx.drop a.count).find? lacks then
    throw (.arity function (.missingArgument name (some (i + 1))))
  let values ← (names.zipIdx).mapM fun (name, i) =>
    match a.positional[i]?, a.keywords.lookup name with
    | some _, some _ => throw (.arity function (.namedAndPlaced name (i + 1)))
    | some v, none | none, some v => return some v
    | none, none => return none
  -- Last, since a required value that is missing is reported before a keyword that nobody knows.
  match a.keywords.find? fun k => !names.contains k.1 with
  | some k => throw (.arity function (.unknownKeyword k.1))
  | none => return values

/-- The values of optional parameters, by position or by keyword. -/
def optional (a : Arguments) (function : String) (names : List String) :
    Except Fault (List (Option Value)) :=
  a.named function names 0 names.length

end Arguments

end Curly
