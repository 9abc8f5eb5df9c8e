import Curly.Proofs.Program.Output
import Curly.Proofs.Value.Equality
import Curly.Term

/-!
Conditions that compare. Whatever the operands of such a condition are, what it says depends on
their values only, and where these can be compared or not, it says something. What conditions with
different operators say of the same plain data agrees, but for truth values, which strict equality
tells from numbers and the orderings do not.
-/

namespace Curly

namespace Operator

/-- What a condition with an operator says of two values. -/
def holds : Operator → Value → Value → Bool
  | .eq, a, b => a.strictEqual b
  | .neq, a, b => !a.strictEqual b
  | .gt, a, b => Value.orders .gt a b
  | .gte, a, b => Value.orders .ge a b
  | .lt, a, b => Value.orders .lt a b
  | .lte, a, b => Value.orders .le a b
  | .and, a, b => a.isTrue && b.isTrue
  | .or, a, b => a.isTrue || b.isTrue

/-- Whether a condition with an operator, wherever it is evaluated, is true or false of operands
that come to two values. -/
def Decides (op : Operator) (a b : Value) (truth : Bool) : Prop :=
  ∀ (p : Program) (d : Nat) {l r : Term} {m m₁ m₂ : Machine}, p.HasOwnNames →
    l.expr.isStarred = false → r.expr.isStarred = false →
    Eval.expr (Eval.hooks (d + 1)) p.env l.expr m = .ok (a, m₁) →
    Eval.expr (Eval.hooks (d + 1)) p.env r.expr m₁ = .ok (b, m₂) →
    ∃ v m', Eval.expr (Eval.hooks (d + 1)) p.env (Term.comparison op l r).expr m = .ok (v, m') ∧
      v.isTrue = truth

end Operator

namespace Eval

variable {p : Program} {m m₁ m₂ : Machine} {l r : Expr} {a b : Value}

/-- The call of the helper for equality. -/
theorem expr_strictEqual (hp : p.HasOwnNames) (d : Nat) (hls : l.isStarred = false)
    (hrs : r.isStarred = false) (hl : expr (hooks (d + 1)) p.env l m = .ok (a, m₁))
    (hr : expr (hooks (d + 1)) p.env r m₁ = .ok (b, m₂)) :
    expr (hooks (d + 1)) p.env (Term.call .strictEqual [l, r]) m =
      .ok (.bool (a.strictEqual b), m₂) := by
  rw [expr_helper_all hp (by simp [hls, hrs])]
  simp only [List.mapM_cons, List.mapM_nil, bind_assoc, pure_bind]
  rw [bind_of_ok hl, bind_of_ok hr]
  rfl

/-- The call of the helper for orderings. -/
theorem expr_orders (hp : p.HasOwnNames) (d : Nat) {op : String} {o : CompareOp}
    (hop : Value.orderingNamed? op = some o) (hls : l.isStarred = false)
    (hrs : r.isStarred = false) (hl : expr (hooks (d + 1)) p.env l m = .ok (a, m₁))
    (hr : expr (hooks (d + 1)) p.env r m₁ = .ok (b, m₂)) :
    expr (hooks (d + 1)) p.env (Term.call .compare [.str op, l, r]) m =
      .ok (.bool (Value.orders o a b), m₂) := by
  have hname : expr (hooks (d + 1)) p.env (.str op) = pure (.str op) := by
    rw [Expr.str, expr]
    rfl
  have hstr : (Expr.str op).isStarred = false := rfl
  have hcall : Helper.compare.call (.ofList [.str op, a, b]) =
      .bool <$> Value.compareBy (.str op) a b := rfl
  rw [expr_helper_all hp (by simp [hls, hrs, hstr])]
  simp only [List.mapM_cons, List.mapM_nil, bind_assoc, pure_bind, hname]
  rw [bind_of_ok hl, bind_of_ok hr, hcall, Value.compareBy_eq hop]
  rfl

end Eval

/-- **Conditions that compare do not fail**, and what they say is told by the values of their
operands. -/
theorem Operator.decides_holds (op : Operator) (a b : Value) : op.Decides a b (op.holds a b) := by
  intro p d l r m m₁ m₂ hp hls hrs hl hr
  have hequal := Eval.expr_strictEqual hp d hls hrs hl hr
  have hordered {name : String} {o : CompareOp} (ho : Value.orderingNamed? name = some o) :
      ∃ v m', Eval.expr (Eval.hooks (d + 1)) p.env
        (Term.call .compare [.str name, l.expr, r.expr]) m = .ok (v, m') ∧
          v.isTrue = Value.orders o a b :=
    ⟨_, _, Eval.expr_orders hp d ho hls hrs hl hr, rfl⟩
  cases op with
  | eq => exact ⟨_, _, hequal, rfl⟩
  | neq =>
      rw [Term.expr, Eval.expr, Eval.bind_of_ok hequal]
      exact ⟨_, _, rfl, rfl⟩
  | gt | gte | lt | lte => exact hordered rfl
  -- the right operand is evaluated only if the left one has not decided
  | and =>
      rw [Term.expr, Eval.expr, Eval.logical, Eval.logical, Eval.bind_of_ok hl, holds]
      · cases ha : a.isTrue with
        | false => exact ⟨a, m₁, rfl, ha⟩
        | true => exact ⟨b, m₂, hr, by simp⟩
      · simp
  | or =>
      rw [Term.expr, Eval.expr, Eval.logical, Eval.logical, Eval.bind_of_ok hl, holds]
      · cases ha : a.isTrue with
        | false => exact ⟨b, m₂, hr, by simp⟩
        | true => exact ⟨a, m₁, rfl, ha⟩
      · simp

/-- **What a condition says of two values is told by the values alone.** -/
theorem Operator.decides_iff {op : Operator} {a b : Value} {truth : Bool} :
    op.Decides a b truth ↔ truth = op.holds a b := by
  constructor
  · intro h
    -- variables of the generated function can have any values
    let p : Program := ⟨[]⟩
    let m : Machine := { frames := #[[(contextName, a), (appendName, b)]] }
    have hl : Eval.expr (Eval.hooks 1) p.env (Term.this contextName).expr m = .ok (a, m) :=
      Eval.load_of_mem_varNames (by simp [Program.varNames]) rfl (by decide)
    have hr : Eval.expr (Eval.hooks 1) p.env (Term.this appendName).expr m = .ok (b, m) :=
      Eval.load_of_mem_varNames (by simp [Program.varNames, Program.outputVariables]) rfl
        (by decide)
    obtain ⟨v, m', hv, rfl⟩ := h p 0 Program.hasOwnNames_nil rfl rfl hl hr
    obtain ⟨w, m'', hw, hholds⟩ := op.decides_holds a b p 0 Program.hasOwnNames_nil rfl rfl hl hr
    cases hv.symm.trans hw
    exact hholds
  · rintro rfl
    exact op.decides_holds a b

namespace Operator

variable {a b : Value}

/-! ## Equality -/

/-- **Strict equality sees truth values on top only.** Plain data are strictly equal if they are
alike at every position, where a truth value is the number it counts as, and no truth value stands
against a number on top. Below it may, and only there is what stands at corresponding positions not
strictly equal. -/
theorem eq_decides_by_position (ha : a.IsPlain true) :
    Operator.eq.Decides a b (a.strictEqual b) ∧
      (a.strictEqual b = true ↔ a.mixes b = false ∧ ∀ x y, a.Meets b x y → x.alike y = true) ∧
      (a.strictEqual b = true → ∀ x y, a.Meets b x y →
        (x.strictEqual y = true ↔ x.mixes y = false)) := by
  refine ⟨decides_holds .eq a b, ?_, fun h x y hmeets => ha.strictEqual_of_meets h hmeets⟩
  rw [Value.strictEqual_iff, ha.equal_iff, and_comm]

/-- The lists of the truth value and of the number one are strictly equal; what they hold is not. -/
theorem eq_decides_by_position_singleton :
    Operator.eq.Decides (.list [.bool true]) (.list [.int 1]) true ∧
      (Value.list [.bool true]).Meets (.list [.int 1]) (.bool true) (.int 1) ∧
      (Value.bool true).strictEqual (.int 1) = false := by
  have hplain : (Value.list [.bool true]).IsPlain true := .list (by simp [Value.IsPlain.bool])
  have hequal : (Value.list [.bool true]).strictEqual (.list [.int 1]) = true := by
    simp [Value.strictEqual, Value.equal, Value.equalAll, Value.number?, Value.Number.compare?]
  have hmeets : (Value.list [.bool true]).Meets (.list [.int 1]) (.bool true) (.int 1) :=
    .single (by simp [Value.faces])
  obtain ⟨hdecides, -, hbelow⟩ := eq_decides_by_position (b := .list [.int 1]) hplain
  rw [hequal] at hdecides
  refine ⟨hdecides, hmeets, ?_⟩
  simpa [Value.mixes] using hbelow hequal _ _ hmeets

/-! ## Coherence -/

/-- **The operators agree on plain data.** An ordering is the flipped one of the operands exchanged,
no two of lesser, equal and greater hold, and what is neither greater nor lesser is equal but for a
truth value and the number it counts as. -/
theorem isCoherent (ha : a.IsPlain false) (hb : b.IsPlain false) :
    (∀ op : Operator, op.Decides a b (op.holds a b)) ∧
      Operator.gt.holds a b = Operator.lt.holds b a ∧
      Operator.gte.holds a b = Operator.lte.holds b a ∧
      ([Operator.lt, .eq, .gt].filter (·.holds a b)).length ≤ 1 ∧
      (Operator.gte.holds a b = true → Operator.lte.holds a b = true →
        (Operator.eq.holds a b = true ↔ a.mixes b = false)) := by
  refine ⟨fun op => decides_holds op a b, ha.orders_flip hb .lt, ha.orders_flip hb .le, ?_, ?_⟩
  · -- which of the three hold is told by the place of one value to the other, if there is one
    simp only [List.filter_cons, List.filter_nil, holds, ha.orders_eq]
    cases hplace : a.place? b with
    | none => cases a.strictEqual b <;> decide
    | some o =>
        have hsame : a.strictEqual b = true → o = .eq := fun h =>
          (ha.equal_iff_of_place? hplace).1 (Value.strictEqual_iff.1 h).1
        cases hstrict : a.strictEqual b with
        | false => cases o <;> decide
        | true =>
            rw [hsame hstrict]
            decide
  · intro hge hle
    have hequal := (ha.equal_iff_of_place? (ha.place?_eq_of_orders hge hle)).2 rfl
    exact Value.strictEqual_iff.trans (and_iff_right hequal)

/-- The lists of the truth value and of the number one are neither greater nor lesser, so they are
equal. -/
theorem isCoherent_singleton :
    Operator.gt.holds (.list [.bool true]) (.list [.int 1]) =
        Operator.lt.holds (.list [.int 1]) (.list [.bool true]) ∧
      Operator.eq.Decides (.list [.bool true]) (.list [.int 1]) true := by
  have htruth : (Value.list [.bool true]).IsPlain false := .list (by simp [Value.IsPlain.bool])
  have hone : (Value.list [.int 1]).IsPlain false := .list (by simp [Value.IsPlain.int])
  have hplace : (Value.list [.bool true]).place? (.list [.int 1]) = some .eq := by
    simp [Value.place?, Value.placeAll?, Value.equal, Value.number?, Value.Number.compare?]
  obtain ⟨-, hflip, -, -, hsame⟩ := isCoherent htruth hone
  have hequal := (hsame (by simp [holds, htruth.orders_eq, hplace, CompareOp.holds])
    (by simp [holds, htruth.orders_eq, hplace, CompareOp.holds])).2 rfl
  exact ⟨hflip, decides_iff.2 hequal.symm⟩

/-- A truth value is no less and no more than the number it counts as, and yet is not equal. -/
theorem not_eq_of_gte_of_lte : ¬∀ a b : Value, a.IsPlain false → b.IsPlain false →
    Operator.gte.Decides a b true → Operator.lte.Decides a b true →
      Operator.eq.Decides a b true := by
  intro h
  have hgte : Operator.gte.Decides (.bool true) (.int 1) true := decides_iff.2 (by decide)
  have hlte : Operator.lte.Decides (.bool true) (.int 1) true := decides_iff.2 (by decide)
  have heq := decides_iff.1 (h _ _ (.bool true) (.int 1) hgte hlte)
  exact absurd heq (by decide)

end Operator

end Curly
