import Curly.Number.Double
import Curly.Value

/-!
Equality of values: numbers by value whatever their kind, containers by what they hold, what has an
identity by that. What can be a key is told here too.
-/

namespace Curly.Value

/-- Numbers as they are compared. -/
inductive Number
  | int (n : Int)
  | float (x : Double)

/-- The number that a value is; truth values count as zero and one. -/
def number? : Value → Option Number
  | .bool b => some (.int (if b then 1 else 0))
  | .int n => some (.int n)
  | .float x => some (.float x)
  | _ => Option.none

/-- Where two numbers stand to each other. -/
def Number.compare? : Number → Number → Option Ordering
  | .int m, .int n => some (compare m n)
  | .int m, .float y => Double.compareInt? m y
  | .float x, .int n => (Double.compareInt? n x).map Ordering.swap
  | .float x, .float y => x.compare? y

/-- Whether two ranges go through the same numbers. -/
def equalRanges (a b : Int × Int × Int) : Bool :=
  let m := rangeLength a.1 a.2.1 a.2.2
  let n := rangeLength b.1 b.2.1 b.2.2
  m == n && (m == 0 || (a.1 == b.1 && (m == 1 || a.2.2 == b.2.2)))

mutual

/-- Whether two values are equal. -/
def equal : Value → Value → Bool
  | .none, .none | .ellipsis, .ellipsis => true
  | .bool a, v =>
    match v.number? with
    | some n => Number.compare? (.int (if a then 1 else 0)) n == some .eq
    | Option.none => false
  | .int a, v =>
    match v.number? with
    | some n => Number.compare? (.int a) n == some .eq
    | Option.none => false
  | .float a, v =>
    match v.number? with
    | some n => Number.compare? (.float a) n == some .eq
    | Option.none => false
  | .imaginary a, .imaginary b => a.compare? b == some .eq
  | .str a, .str b => a == b
  | .bytes a, .bytes b => a == b
  | .list as, .list bs => equalAll as bs
  | .tuple as, .tuple bs => equalAll as bs
  | .set as, .set bs => as.length == bs.length && allWithin as bs
  | .dict as, .dict bs => as.length == bs.length && allEntries as bs
  | .range a b c, .range d e f => equalRanges (a, b, c) (d, e, f)
  | .object as, .object bs => as.length == bs.length && allFields as bs
  | .slice a b c, .slice d e f => equal a d && equal b e && equal c f
  | .closure m .., .closure n .. => m == n
  | .helper a, .helper b => a == b
  | .builtin a, .builtin b => a == b
  | .type a, .type b => a == b
  | .iterator m _, .iterator n _ => m == n
  | .descriptor t m, .descriptor u n => t == u && m == n
  | .method a m, .method b n => m == n && equal a b
  | _, _ => false

/-- Whether the values of two lists are equal in turn. -/
def equalAll : List Value → List Value → Bool
  | [], [] => true
  | a :: as, b :: bs => equal a b && equalAll as bs
  | _, _ => false

/-- Whether every value of a list equals one of another. -/
def allWithin : List Value → List Value → Bool
  | [], _ => true
  | a :: as, bs => bs.any (equal a ·) && allWithin as bs

/-- Whether every entry has an equal one. -/
def allEntries : List (Value × Value) → List (Value × Value) → Bool
  | [], _ => true
  | (k, v) :: es, bs =>
    (match bs.find? (fun e => equal k e.1) with
      | some (_, w) => equal v w
      | Option.none => false) && allEntries es bs

/-- Whether every field has an equal one. -/
def allFields : List (String × Value) → List (String × Value) → Bool
  | [], _ => true
  | (name, v) :: fs, bs =>
    (match bs.lookup name with
      | some w => equal v w
      | Option.none => false) && allFields fs bs

end

mutual

/-- The type of what keeps a value from being a key, if anything does. -/
def unhashable? : Value → Option String
  | .list _ => some "list"
  | .set _ => some "set"
  | .dict _ => some "dict"
  | .slice .. => some "slice"
  | .object _ => some "types.SimpleNamespace"
  | .tuple items => unhashableAmong? items
  | _ => Option.none

/-- The type of what keeps values from being parts of a key, if anything does. -/
def unhashableAmong? : List Value → Option String
  | [] => Option.none
  | v :: vs =>
    match unhashable? v with
    | some t => some t
    | Option.none => unhashableAmong? vs

end

/-- The value of a key. -/
def find? (key : Value) : List (Value × α) → Option α
  | [] => Option.none
  | (k, v) :: es => if equal key k then some v else find? key es

/-- The value of a text among keys. -/
def field? (name : String) (entries : List (Value × α)) : Option α :=
  find? (.str name) entries

/-- Sets the value of a key: in place if there is an equal key, which stays, else at the end. -/
def insert (key : Value) (value : α) : List (Value × α) → List (Value × α)
  | [] => [(key, value)]
  | (k, v) :: es => if equal key k then (k, value) :: es else (k, v) :: insert key value es

/-- Adds a value to those of a set. -/
def adjoin (value : Value) (items : List Value) : List Value :=
  if items.any (equal value ·) then items else items ++ [value]

/-- The entries of one dictionary, those of another taken over. -/
def merge (entries others : List (Value × Value)) : List (Value × Value) :=
  others.foldl (fun es (k, v) => insert k v es) entries

/-- Whether two values are equal, where a truth value never equals a number. -/
def strictEqual (a b : Value) : Bool :=
  match a, b with
  | .bool a, .bool b => a == b
  | .bool _, _ | _, .bool _ => false
  | a, b => equal a b

end Curly.Value
