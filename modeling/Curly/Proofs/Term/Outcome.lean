import Curly.Proofs.Except
import Curly.Proofs.Term.Simple
import Curly.Proofs.Value.Lookup

/-!
What comes of a simple term: a value, unless a number in it is too large for the format. Nothing
that may be missing from the data makes it fail.
-/

namespace Curly.Term

variable {bindings : List String} {data item : Value} {t : Term}

/-- The fault of a number that is too large for the format: it is written as a name, and nothing
stands under the name. -/
def tooLarge : Fault := .undefinedName FloatLayout.value.infinity

theorem exists_constant_signed (negative : Bool) (n : Nat) :
    ∃ v, (signed negative (.literal (.int n))).constant = .ok v := by
  cases negative with
  | true => exact ⟨_, rfl⟩
  | false => exact ⟨_, rfl⟩

theorem exists_valueAt_ofDouble (x : Double) (hx : (ofDouble x).isFinite = true) :
    ∃ v, (ofDouble x).valueAt data item = .ok v := by
  cases x with
  | nan => exact ⟨_, rfl⟩
  | infinite negative =>
      cases negative with
      | true => cases hx
      | false => cases hx
  | finite negative m e =>
      cases negative with
      | true => exact ⟨_, rfl⟩
      | false => exact ⟨_, rfl⟩

theorem failsBy_ofDouble (x : Double) :
    ((ofDouble x).valueAt data item).FailsBy (· = tooLarge) := by
  cases x with
  | nan => exact .of_ok _
  | infinite negative =>
      cases negative with
      | true => exact .of_error rfl
      | false => exact .of_error rfl
  | finite negative m e =>
      cases negative with
      | true => exact .of_ok _
      | false => exact .of_ok _

/-- The orderings are named. -/
theorem exists_compareBy_name {op : Operator}
    (hop : op ∈ [Operator.gt, .gte, .lt, .lte]) (a b : Value) :
    ∃ r, Value.compareBy (.str op.name) a b = .ok r := by
  simp only [List.mem_cons, List.not_mem_nil, or_false] at hop
  obtain rfl | rfl | rfl | rfl := hop
  all_goals exact Value.exists_compareBy rfl a b

/-- A simple operand fails for a number that is too large only. -/
theorem IsOperand.failsBy (ht : t.IsOperand bindings) :
    (t.valueAt data item).FailsBy (· = tooLarge) := by
  cases ht with
  | this => exact .of_ok _
  | @path base path _ hpath =>
      exact Except.failsBy_of_exists_ok ((boundTo data item base).exists_lookup hpath)
  | text => exact .of_ok _
  | integer => exact Except.failsBy_of_exists_ok (exists_constant_signed _ _)
  | double x => exact failsBy_ofDouble x

/-- A simple operand that is no number that is too large has a value. -/
theorem IsOperand.exists_valueAt (ht : t.IsOperand bindings) (hfinite : t.isFinite = true) :
    ∃ v, t.valueAt data item = .ok v := by
  cases ht with
  | this => exact ⟨_, rfl⟩
  | path _ hpath => exact (boundTo data item _).exists_lookup hpath
  | text => exact ⟨_, rfl⟩
  | integer => exact exists_constant_signed _ _
  | double x => exact exists_valueAt_ofDouble x hfinite

/-- A simple term fails for a number that is too large only. -/
theorem Plain.failsBy (ht : t.Plain bindings) :
    (t.valueAt data item).FailsBy (· = tooLarge) := by
  cases ht with
  | operand ht => exact ht.failsBy
  | comparison op hl hr =>
      -- an ordering of values never fails, whatever they are
      have hordered {op : Operator} (hop : op ∈ [Operator.gt, .gte, .lt, .lte]) (a b : Value) :
          (Value.compareBy (.str op.name) a b).FailsBy (· = tooLarge) :=
        Except.failsBy_of_exists_ok (exists_compareBy_name hop a b)
      cases op with
      | eq | neq => exact hl.failsBy.bind fun a _ => hr.failsBy.bind fun b _ => .of_ok _
      | gt | gte | lt | lte =>
          exact hl.failsBy.bind fun a _ => hr.failsBy.bind fun b _ =>
            (hordered (by simp) a b).bind fun r _ => .of_ok _
      | and =>
          refine hl.failsBy.bind fun a _ => ?_
          cases a.isTrue with
          | true => exact hr.failsBy
          | false => exact .of_ok a
      | or =>
          refine hl.failsBy.bind fun a _ => ?_
          cases a.isTrue with
          | true => exact .of_ok a
          | false => exact hr.failsBy
  | truthy he => exact he.failsBy.bind fun v _ => .of_ok _

/-- A simple term without numbers that are too large has a value. -/
theorem Plain.exists_valueAt (ht : t.Plain bindings) (hfinite : t.isFinite = true) :
    ∃ v, t.valueAt data item = .ok v := by
  cases ht with
  | operand ht => exact ht.exists_valueAt hfinite
  | @comparison op l r hl hr =>
      rw [isFinite, Bool.and_eq_true] at hfinite
      obtain ⟨a, ha⟩ : ∃ a, l.valueAt data item = .ok a := hl.exists_valueAt hfinite.1
      obtain ⟨b, hb⟩ : ∃ b, r.valueAt data item = .ok b := hr.exists_valueAt hfinite.2
      -- values without an order are not an error
      have hordered {op : Operator} (hop : op ∈ [Operator.gt, .gte, .lt, .lte]) :
          ∃ v, (do return .bool (← Value.compareBy (.str op.name) a b) : Except Fault Value) =
            .ok v := by
        obtain ⟨r, hr⟩ := exists_compareBy_name hop a b
        exact ⟨.bool r, by rw [hr]; rfl⟩
      cases op with
      | eq | neq => exact ⟨_, by rw [valueAt, ha, hb]; rfl⟩
      | gt | gte | lt | lte =>
          simp only [valueAt, ha, hb]
          exact hordered (by simp)
      | and =>
          rw [valueAt, ha, hb]
          show ∃ v, (if a.isTrue then .ok b else .ok a : Except Fault Value) = .ok v
          split
          · exact ⟨b, rfl⟩
          · exact ⟨a, rfl⟩
      | or =>
          rw [valueAt, ha, hb]
          show ∃ v, (if a.isTrue then .ok a else .ok b : Except Fault Value) = .ok v
          split
          · exact ⟨a, rfl⟩
          · exact ⟨b, rfl⟩
  | @truthy e he =>
      obtain ⟨v, hv⟩ : ∃ v, e.valueAt data item = .ok v := he.exists_valueAt hfinite
      exact ⟨_, by rw [valueAt, hv]; rfl⟩

end Curly.Term
