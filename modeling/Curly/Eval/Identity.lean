import Curly.Expr.Printer
import Curly.Helper
import Curly.Value.Equality
import Curly.Value.Text

/-!
Identity: whether two operands are one and the same value. Values are told apart by what they hold,
so where equal values may stand in different places it is the expressions that decide: reading a
place twice gives the same value, and equal constants are one.
-/

namespace Curly

/-- Whether all equal values of the type are one: nothing, truth values, small integers, texts and
bytes of at most one place, and whatever has an identity. -/
def Value.isShared : Value → Bool
  | .none | .bool _ | .ellipsis | .closure .. | .helper _ | .builtin _ | .type _ | .descriptor ..
  | .iterator .. => true
  | .int n => -5 ≤ n && n ≤ 256
  | .str s => s.isEmpty || (s.length == 1 && s.toList.all (·.toNat < 256))
  | .bytes b => b.length ≤ 1
  | .tuple items => items.isEmpty
  | _ => false

/-- Whether a value is made anew each time it is read. -/
def Value.isFresh : Value → Bool
  | .method .. | .member .. => true
  | _ => false

namespace Expr

mutual

/-- Whether an expression is a constant: its value is known before it is evaluated. -/
def isConstant : Expr → Bool
  | .literal _ => true
  | .unary _ e => isConstant e
  | .binary _ l r => isConstant l && isConstant r
  | .subscript e i => isConstant e && isConstant i
  | .display .tuple es => areConstant es
  | _ => false

/-- Whether expressions are constants. -/
def areConstant : List Expr → Bool
  | [] => true
  | e :: es => isConstant e && areConstant es

end

mutual

/-- Whether an expression reads a place: a variable, a part of the data, or what stands under a
constant key of such. -/
def isReading : Expr → Bool
  | .name _ => true
  | .attribute e _ => isReading e
  | .subscript e i => isReading e && isConstant i
  | .call (.name f) args =>
    (f == Helper.resolve.name || f == Helper.member.name) && areReadings args
  | _ => false

/-- Whether arguments read places or are constants. -/
def areReadings : List Argument → Bool
  | [] => true
  | .positional e :: as => (isReading e || isConstant e) && areReadings as
  | _ :: _ => false

end

/-- What an expression leaves its value in. -/
def place : Expr → Expr
  | .assign id _ => .name id
  | e => e

/-- Whether two expressions read the same place. -/
def readAlike (e f : Expr) : Bool :=
  e.place.isReading && f.place.isReading && e.place.print == f.place.print

/-- Whether the values of two expressions are one and the same. -/
def sameValue (e f : Expr) (a b : Value) : Bool :=
  if a.isShared then a.typeName == b.typeName && a.equal b
  else if readAlike e f then !a.isFresh
  else
    e.isConstant && f.isConstant && a.typeName == b.typeName &&
      a.written.toOption == b.written.toOption

end Expr

end Curly
