import Curly.Proofs.Eval.Gives
import Curly.Proofs.Program.Output

/-!
Simple terms: those without free-form expressions. Their values are told without a machine, from the
data and the item of the innermost loop alone, and the evaluator agrees. What loops are called makes
no difference to them: a simple term that is read in one scope is read in every other scope of the
same kind, with the names of that scope put in.
-/

namespace Curly

/-- Whether a text is one string without a prefix, and nothing else. -/
def Lexeme.isString (s : List Char) : Bool :=
  match string? [] (normalizeLines s) with
  | some (_, []) => true
  | _ => false

/-- What a number with or without a sign, or a string, stands for in an expression. Only an infinite
number is written as a name, and this name stands for nothing. -/
def Expr.constant : Expr → Except Fault Value
  | .literal l => .ok l.toValue
  | .unary op e => do (← e.constant).operateUnary op
  | .name id => .error (.undefinedName id)
  | _ => .ok .none

/-- Expressions of operands that are no accesses. -/
inductive Expr.IsConstant : Expr → Prop
  | literal (l : Literal) : IsConstant (.literal l)
  | infinity : IsConstant (.name FloatLayout.value.infinity)
  | unary (op : UnaryOp) {e : Expr} (he : e.IsConstant) : IsConstant (.unary op e)

namespace Term

/-- Whether a term has no free-form expression, and its quoted operands are one string each. -/
def isSimple : Term → Bool
  | .this _ | .path .. => true
  | .complex .. => false
  | .literal code (.literal (.str ..)) => Lexeme.isString code.toList
  | .literal .. => true
  | .comparison _ l r => l.isSimple && r.isSimple
  | .truthy e => e.isSimple

/-- Whether a term names no number that is too large for the format. -/
def isFinite : Term → Bool
  | .literal _ (.name _) | .literal _ (.unary _ (.name _)) => false
  | .comparison _ l r => l.isFinite && r.isFinite
  | .truthy e => e.isFinite
  | _ => true

/-- What stands under a name of generated code: all data under that of the parameter, the item of
the innermost loop under others. -/
def boundTo (data item : Value) (binding : String) : Value :=
  if binding = contextName then data else item

/-- The value of a simple term. -/
def valueAt (data item : Value) : Term → Except Fault Value
  | .this binding => .ok (boundTo data item binding)
  | .path base dotted => (boundTo data item base).lookup dotted
  | .complex .. => .ok .none
  | .literal _ value => value.constant
  | .comparison op l r =>
    match op with
    | .eq => do
      let a ← l.valueAt data item
      return .bool (a.strictEqual (← r.valueAt data item))
    | .neq => do
      let a ← l.valueAt data item
      return .bool !a.strictEqual (← r.valueAt data item)
    | .and => do
      let a ← l.valueAt data item
      if a.isTrue then r.valueAt data item else return a
    | .or => do
      let a ← l.valueAt data item
      if a.isTrue then return a else r.valueAt data item
    | op => do
      let a ← l.valueAt data item
      return .bool (← Value.compareBy (.str op.name) a (← r.valueAt data item))
  | .truthy e => do return .bool (← e.valueAt data item).isTrue

/-- Simple operands over some variables, in the forms in which they are read. -/
inductive IsOperand (bindings : List String) : Term → Prop
  | this {binding : String} (hb : binding ∈ bindings) : IsOperand bindings (.this binding)
  | path {base : String} {path : List Char} (hb : base ∈ bindings)
      (hpath : Form.isPath path = true) : IsOperand bindings (.path base (String.ofList path))
  | text {code : List Char} (value : String) (marked : Bool) (hquoted : isQuoted code = true)
      (h : Lexeme.isString code = true) :
      IsOperand bindings (.literal (String.ofList code) (.literal (.str value marked)))
  | integer {n : Int} (hn : n.natAbs < Nat.pow 10 Reading.digitLimit) :
      IsOperand bindings (.literal (toString n) (signed (n < 0) (.literal (.int n.natAbs))))
  | double (x : Double) : IsOperand bindings (ofDouble x)

/-- Simple terms over some variables, in the forms in which they are read. -/
inductive Plain (bindings : List String) : Term → Prop
  | operand {t : Term} (ht : t.IsOperand bindings) : Plain bindings t
  | comparison (op : Operator) {l r : Term} (hl : l.IsOperand bindings)
      (hr : r.IsOperand bindings) : Plain bindings (.comparison op l r)
  | truthy {e : Term} (he : e.IsOperand bindings) : Plain bindings (.truthy e)

theorem isConstant_signed (negative : Bool) {e : Expr} (he : e.IsConstant) :
    (signed negative e).IsConstant := by
  cases negative with
  | true => exact .unary .minus he
  | false => exact he

theorem isConstant_ofDouble (x : Double) :
    ∃ value : Expr, ofDouble x = .literal (FloatLayout.value.write x) value ∧ value.IsConstant := by
  refine ⟨_, rfl, isConstant_signed _ ?_⟩
  split
  · exact .infinity
  · exact .literal _

theorem isStarred_of_isConstant {e : Expr} (he : e.IsConstant) : e.isStarred = false := by
  cases he with
  | literal => rfl
  | infinity => rfl
  | unary => rfl

theorem isStarred_of_isOperand {bindings : List String} {t : Term} (ht : t.IsOperand bindings) :
    t.expr.isStarred = false := by
  cases ht with
  | integer => exact isStarred_of_isConstant (isConstant_signed _ (.literal _))
  | double x =>
      obtain ⟨value, hx, hvalue⟩ := isConstant_ofDouble x
      rw [hx]
      exact isStarred_of_isConstant hvalue
  | this | path | text => rfl

end Term

/-! ### Evaluation -/

namespace Eval

variable {p : Program} {m : Machine}

/-- The name of an infinite number stands for nothing. -/
theorem load_infinity (hp : p.HasOwnNames) (ha : p.assigned = []) :
    load p.env FloatLayout.value.infinity =
      ofExcept (.error (.undefinedName FloatLayout.value.infinity)) := by
  have hassigned : FloatLayout.value.infinity ∉ p.assigned := by simp [ha]
  rw [load_of_not_mem_varNames (not_mem_varNames hp hassigned (by decide) (by decide))]
  rfl

/-- The name of the type of truth values stands for the type. -/
theorem load_bool (hp : p.HasOwnNames) : load p.env "bool" = pure (.type "bool") := by
  have hrel : "bool" ∈ p.reliedOn := by simp [Program.reliedOn]
  have hassigned : "bool" ∉ p.assigned := fun ha => hp.apart _ ha hrel
  rw [load_of_not_mem_varNames (not_mem_varNames hp hassigned (by decide) (by decide))]
  rfl

theorem reads_constant {h : Hooks} (hp : p.HasOwnNames) (ha : p.assigned = []) {e : Expr}
    (he : e.IsConstant) : Reads m (expr h p.env e) e.constant := by
  induction he with
  | literal l =>
      rw [expr]
      exact .pure m _
  | infinity =>
      -- not a number in code, but a name that is looked up
      rw [expr, load_infinity hp ha]
      exact .ofExcept m _
  | unary op _ ih =>
      rw [expr, Expr.constant]
      exact ih.bind fun v => .ofExcept m _

/-- The call of a helper with two arguments. -/
theorem reads_helper (hp : p.HasOwnNames) {d : Nat} {e f : Expr} {x y : Except Fault Value}
    (he : e.isStarred = false) (hf : f.isStarred = false) (which : Helper)
    (hx : Reads m (expr (hooks (d + 1)) p.env e) x)
    (hy : Reads m (expr (hooks (d + 1)) p.env f) y) :
    Reads m (expr (hooks (d + 1)) p.env (Term.call which [e, f])) (do
      let a ← x
      let b ← y
      which.call (.ofList [a, b])) := by
  have hes : ∀ e' ∈ [e, f], e'.isStarred = false := by
    simp [he, hf]
  rw [expr_helper_all hp hes]
  simp only [List.mapM_cons, List.mapM_nil, bind_assoc, pure_bind]
  exact hx.bind fun a => hy.bind fun b => .ofExcept m _

/-- The call of the helper that compares. -/
theorem reads_compare (hp : p.HasOwnNames) {d : Nat} {e f : Expr} {x y : Except Fault Value}
    (he : e.isStarred = false) (hf : f.isStarred = false) (op : String)
    (hx : Reads m (expr (hooks (d + 1)) p.env e) x)
    (hy : Reads m (expr (hooks (d + 1)) p.env f) y) :
    Reads m (expr (hooks (d + 1)) p.env (Term.call .compare [.str op, e, f])) (do
      let a ← x
      let b ← y
      return .bool (← Value.compareBy (.str op) a b)) := by
  have hes : ∀ e' ∈ [.str op, e, f], e'.isStarred = false := by
    have hstr : (Expr.str op).isStarred = false := rfl
    simp [he, hf, hstr]
  -- the name of the operator is an argument, too, a constant
  have hop : expr (hooks (d + 1)) p.env (.str op) = pure (.str op) := by
    rw [Expr.str, expr]
    rfl
  rw [expr_helper_all hp hes]
  simp only [List.mapM_cons, List.mapM_nil, bind_assoc, pure_bind, hop]
  refine hx.bind fun a => hy.bind fun b => ?_
  have hcall : Helper.compare.call (.ofList [.str op, a, b]) =
      .bool <$> Value.compareBy (.str op) a b := rfl
  rw [hcall, map_eq_pure_bind]
  exact .ofExcept m _

variable {bindings : List String} {data item : Value}

/-- The evaluator agrees on the value of a simple operand. -/
theorem reads_operand (hp : p.HasOwnNames) (ha : p.assigned = []) {d : Nat}
    (hb : ∀ b ∈ bindings, load p.env b m = .ok (Term.boundTo data item b, m)) {t : Term}
    (ht : t.IsOperand bindings) :
    Reads m (expr (hooks (d + 1)) p.env t.expr) (t.valueAt data item) := by
  cases ht with
  | this hbinding =>
      rw [Term.expr, expr]
      exact hb _ hbinding
  -- a path is looked up in the value that its base is bound to
  | @path base path hbase hpath =>
      have hfirst : Reads m (expr (hooks (d + 1)) p.env (.name base))
          (.ok (Term.boundTo data item base)) := by
        rw [expr]
        exact hb base hbase
      have hsecond : Reads m (expr (hooks (d + 1)) p.env (.str (String.ofList path)))
          (.ok (.str (String.ofList path))) := by
        rw [Expr.str, expr]
        exact .pure m _
      exact reads_helper hp rfl rfl .lookup hfirst hsecond
  | text value marked => exact reads_constant hp ha (.literal _)
  | integer hn => exact reads_constant hp ha (Term.isConstant_signed _ (.literal _))
  | double x =>
      obtain ⟨value, hx, hvalue⟩ := Term.isConstant_ofDouble x
      rw [hx]
      exact reads_constant hp ha hvalue

/-- The evaluator agrees on the value of a simple term. -/
theorem reads_term (hp : p.HasOwnNames) (ha : p.assigned = []) {d : Nat}
    (hb : ∀ b ∈ bindings, load p.env b m = .ok (Term.boundTo data item b, m)) {t : Term}
    (ht : t.Plain bindings) :
    Reads m (expr (hooks (d + 1)) p.env t.expr) (t.valueAt data item) := by
  cases ht with
  | operand ht => exact reads_operand hp ha hb ht
  | comparison op hl hr =>
      have hls := Term.isStarred_of_isOperand hl
      have hrs := Term.isStarred_of_isOperand hr
      have hleft := reads_operand hp ha (d := d) hb hl
      have hright := reads_operand hp ha (d := d) hb hr
      cases op with
      | eq => exact reads_helper hp hls hrs .strictEqual hleft hright
      | neq =>
          -- the code is a `not` around the call for equality
          have hequal := reads_helper hp hls hrs .strictEqual hleft hright
          have hnot := hequal.bind fun v => Reads.ofExcept m (v.operateUnary .not)
          simp only [bind_assoc] at hnot
          rw [Term.expr, expr]
          exact hnot
      | gt | gte | lt | lte => exact reads_compare hp hls hrs _ hleft hright
      | and =>
          rw [Term.expr, expr, logical, logical]
          · refine hleft.bind fun v => ?_
            cases v.isTrue with
            | true => exact hright
            | false => exact .pure m v
          · simp
      | or =>
          rw [Term.expr, expr, logical, logical]
          · refine hleft.bind fun v => ?_
            cases v.isTrue with
            | true => exact .pure m v
            | false => exact hright
          · simp
  | truthy he =>
      rw [Term.expr, expr_apply (Term.isStarred_of_isOperand he), load_bool hp, pure_bind]
      refine (reads_operand hp ha hb he).bind fun v => ?_
      exact .pure m _

end Eval

end Curly
