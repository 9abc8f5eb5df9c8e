import Curly.Fault
import Curly.Value.Equality

/-!
The order of values: numbers by value, texts and bytes by their elements, lists and tuples by the
first elements that differ, sets by inclusion. Nothing else is ordered.
-/

namespace Curly

/-- Whether a comparison holds of what stands in a relation. -/
def CompareOp.holds (op : CompareOp) (o : Ordering) : Bool :=
  match op with
  | .lt => o == .lt
  | .le => o != .gt
  | .gt => o == .gt
  | .ge => o != .lt
  | _ => false

/-- The symbol of an ordering between values. -/
def orderSymbol : CompareOp → String
  | .lt => "<"
  | .le => "<="
  | .gt => ">"
  | _ => ">="

namespace Value

/-- Where two lists stand to each other by their first elements that differ. -/
def lexicographic (cmp : α → α → Ordering) : List α → List α → Ordering
  | [], [] => .eq
  | [], _ :: _ => .lt
  | _ :: _, [] => .gt
  | a :: as, b :: bs =>
    match cmp a b with
    | .eq => lexicographic cmp as bs
    | o => o

/-- Whether a comparison holds between two sets. -/
def orderSets (op : CompareOp) (as bs : List Value) : Bool :=
  match op with
  | .lt => as.length < bs.length && allWithin as bs
  | .le => as.length ≤ bs.length && allWithin as bs
  | .gt => bs.length < as.length && allWithin bs as
  | _ => bs.length ≤ as.length && allWithin bs as

mutual

/-- Whether a comparison holds between two values. -/
def order (op : CompareOp) : Value → Value → Except Fault Bool
  | .str a, .str b => .ok (op.holds (lexicographic compare a.toList b.toList))
  | .bytes a, .bytes b => .ok (op.holds (lexicographic compare a b))
  | .list as, .list bs => orderAll op as bs
  | .tuple as, .tuple bs => orderAll op as bs
  | .set as, .set bs => .ok (orderSets op as bs)
  | a, b =>
    match a.number?, b.number? with
    | some m, some n =>
      match m.compare? n with
      | some o => .ok (op.holds o)
      | Option.none => .ok false
    | _, _ => .error (.unordered (orderSymbol op) a.typeName b.typeName)

/-- Whether a comparison holds between the values of two lists in turn. -/
def orderAll (op : CompareOp) : List Value → List Value → Except Fault Bool
  | [], [] => .ok (op.holds .eq)
  | [], _ :: _ => .ok (op.holds .lt)
  | _ :: _, [] => .ok (op.holds .gt)
  | a :: as, b :: bs => if equal a b then orderAll op as bs else order op a b

end

end Value

end Curly
