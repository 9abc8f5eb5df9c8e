import Curly.Expr.Parser
import Curly.Expr.Validity

/-!
What the parser of expressions yields: never a starred expression. Stars are read only where an
element of a display, an argument or a target may stand.
-/

namespace Curly.Parse

/-- Whatever a parser yields has a property. -/
def Yields (x : Parse α) (Q : α → Prop) : Prop := ∀ ls a rest, x ls = some (a, rest) → Q a

namespace Yields

variable {Q : β → Prop}

theorem pure {b : β} (hb : Q b) : Yields (Pure.pure b : Parse β) Q := by
  intro ls a rest h
  cases h
  exact hb

theorem failure : Yields (Alternative.failure : Parse β) Q := by
  intro ls a rest h
  cases h

theorem failure_bind (k : α → Parse β) : Yields ((Alternative.failure : Parse α) >>= k) Q := by
  intro ls a rest h
  cases h

/-- What follows may count on what the first part yields. -/
theorem bind_of_yields {x : Parse α} {P : α → Prop} {k : α → Parse β} (hx : Yields x P)
    (hk : ∀ a, P a → Yields (k a) Q) : Yields (x >>= k) Q := by
  intro ls b rest h
  cases hr : x ls with
  | none => simp [Bind.bind, StateT.bind, hr] at h
  | some r =>
      have hk' : k r.1 r.2 = some (b, rest) := by
        simpa [Bind.bind, StateT.bind, hr] using h
      exact hk r.1 (hx ls r.1 r.2 hr) r.2 b rest hk'

theorem bind {x : Parse α} {k : α → Parse β} (hk : ∀ a, Yields (k a) Q) : Yields (x >>= k) Q :=
  bind_of_yields (P := fun _ => True) (fun _ _ _ _ => trivial) fun a _ => hk a

theorem ite {c : Prop} [Decidable c] {x y : Parse β} (hx : c → Yields x Q) (hy : ¬c → Yields y Q) :
    Yields (if c then x else y) Q := by
  by_cases h : c
  · rw [if_pos h]
    exact hx h
  · rw [if_neg h]
    exact hy h

end Yields

/-- A parser that never yields a starred expression. -/
def IsUnstarred (x : Parse Expr) : Prop := Yields x fun e => e.isStarred = false

/-- The parsers of one depth of descent never yield a starred expression. -/
structure UnstarredAt (n : Nat) : Prop where
  expression : IsUnstarred (expression n)
  disjunction : IsUnstarred (disjunction n)
  conjunction : IsUnstarred (conjunction n)
  inversion : IsUnstarred (inversion n)
  binary : ∀ level, IsUnstarred (binary n level)
  binaryRest : ∀ level e, e.isStarred = false → IsUnstarred (binaryRest n level e)
  factor : IsUnstarred (factor n)
  primary : IsUnstarred (primary n)
  trailers : ∀ e, e.isStarred = false → IsUnstarred (trailers n e)
  atom : IsUnstarred (atom n)
  parenthesized : IsUnstarred (parenthesized n)
  bracketed : IsUnstarred (bracketed n)
  braced : IsUnstarred (braced n)

open Yields

theorem isUnstarred_strings : IsUnstarred strings := by
  unfold strings
  refine bind fun ls => ?_
  split
  · exact failure
  · refine bind fun _ => ?_
    split
    · exact pure rfl
    · exact failure

theorem isUnstarred_expression {n : Nat} (ih : UnstarredAt n) :
    IsUnstarred (expression (n + 1)) := by
  rw [expression]
  refine bind fun b => ite (fun _ => ?_) fun _ => ?_
  · exact bind fun _ => bind fun _ => bind fun _ => pure rfl
  · refine bind_of_yields ih.disjunction fun body hbody =>
      bind fun b => ite (fun _ => ?_) fun _ => ?_
    · exact bind fun _ => bind fun _ => bind fun _ => pure rfl
    · exact pure hbody

theorem isUnstarred_disjunction {n : Nat} (ih : UnstarredAt n) :
    IsUnstarred (disjunction (n + 1)) := by
  rw [disjunction]
  refine bind_of_yields ih.conjunction fun e he => bind fun es => ?_
  split
  · exact pure he
  · exact pure rfl

theorem isUnstarred_conjunction {n : Nat} (ih : UnstarredAt n) :
    IsUnstarred (conjunction (n + 1)) := by
  rw [conjunction]
  refine bind_of_yields ih.inversion fun e he => bind fun es => ?_
  split
  · exact pure he
  · exact pure rfl

theorem isUnstarred_inversion {n : Nat} (ih : UnstarredAt n) :
    IsUnstarred (inversion (n + 1)) := by
  rw [inversion]
  refine bind fun b => ite (fun _ => bind fun _ => pure rfl) fun _ => ?_
  refine bind_of_yields (ih.binary 0) fun e he => bind fun ls => ?_
  split
  · exact pure he
  · exact pure rfl

theorem isUnstarred_binary {n : Nat} (ih : UnstarredAt n) (level : Nat) :
    IsUnstarred (binary (n + 1) level) := by
  rw [binary]
  refine ite (fun _ => ih.factor) fun _ => ?_
  exact bind_of_yields (ih.binary (level + 1)) fun left hleft => ih.binaryRest level left hleft

theorem isUnstarred_binaryRest {n : Nat} (ih : UnstarredAt n) (level : Nat) {left : Expr}
    (hleft : left.isStarred = false) : IsUnstarred (binaryRest (n + 1) level left) := by
  rw [binaryRest]
  refine bind fun l => ?_
  split
  · split
    · exact bind fun _ => bind fun right => ih.binaryRest level _ rfl
    · exact pure hleft
  · exact pure hleft

theorem isUnstarred_factor {n : Nat} (ih : UnstarredAt n) : IsUnstarred (factor (n + 1)) := by
  rw [factor]
  refine bind fun _ => ite (fun _ => ?_) fun _ => ?_
  · exact bind fun _ => pure rfl
  refine bind fun _ => ite (fun _ => ?_) fun _ => ?_
  · exact bind fun _ => pure rfl
  refine bind fun _ => ite (fun _ => ?_) fun _ => bind fun b => ?_
  · exact bind fun _ => pure rfl
  -- What is made of a base, whether it is awaited or not.
  have hrest {x : Parse Expr} (hx : IsUnstarred x) :
      IsUnstarred (x >>= fun base => do
        if ← acceptOp "**" then return .binary .pow base (← factor n)
        return base) := by
    refine bind_of_yields hx fun base hbase => bind fun b => ite (fun _ => ?_) fun _ => pure hbase
    exact bind fun _ => pure rfl
  cases b with
  | true => exact bind fun e => hrest (pure rfl)
  | false => exact hrest ih.primary

theorem isUnstarred_trailers {n : Nat} (ih : UnstarredAt n) {e : Expr}
    (he : e.isStarred = false) : IsUnstarred (trailers (n + 1) e) := by
  rw [trailers]
  refine bind fun _ => ite (fun _ => bind fun _ => ih.trailers _ rfl) fun _ => ?_
  refine bind fun _ => ite (fun _ => bind fun _ => ih.trailers _ rfl) fun _ => ?_
  exact bind fun _ => ite (fun _ => bind fun _ => ih.trailers _ rfl) fun _ => pure he

theorem isUnstarred_atom {n : Nat} (ih : UnstarredAt n) : IsUnstarred (atom (n + 1)) := by
  rw [atom]
  refine bind fun l => ?_
  split
  all_goals first
    | exact bind fun _ => pure rfl
    | exact isUnstarred_strings
    | exact bind fun _ => ih.parenthesized
    | exact bind fun _ => ih.bracketed
    | exact bind fun _ => ih.braced
    | exact failure

theorem isUnstarred_parenthesized {n : Nat} :
    IsUnstarred (parenthesized (n + 1)) := by
  rw [parenthesized]
  refine bind fun _ => ite (fun _ => pure rfl) fun _ => bind fun e => bind fun _ => ?_
  refine ite (fun _ => ?_) fun _ => ite (fun _ => failure_bind _) fun h => ?_
  · exact bind fun _ => pure rfl
  have he : e.isStarred = false := by
    cases e
    all_goals first
      | rfl
      | exact absurd rfl h
  refine bind fun _ => ite (fun _ => ?_) fun _ => bind fun _ => pure he
  exact bind fun _ => bind fun _ => pure rfl

theorem isUnstarred_bracketed {n : Nat} : IsUnstarred (bracketed (n + 1)) := by
  rw [bracketed]
  refine bind fun _ => ite (fun _ => pure rfl) fun _ => bind fun e => bind fun _ => ?_
  refine ite (fun _ => ?_) fun _ => ?_
  · exact bind fun _ => pure rfl
  refine bind fun _ => ite (fun _ => ?_) fun _ => ?_
  · exact bind fun _ => bind fun _ => pure rfl
  · exact bind fun _ => pure rfl

theorem isUnstarred_braced {n : Nat} : IsUnstarred (braced (n + 1)) := by
  rw [braced]
  refine bind fun _ => ite (fun _ => pure rfl) fun _ => bind fun _ => ite (fun _ => ?_) fun _ => ?_
  · exact bind fun _ => pure rfl
  refine bind fun assigns => bind fun e => ?_
  extract_lets mayBeElement
  refine bind fun _ =>
    ite (fun _ => bind fun v => bind fun _ => ite (fun _ => ?_) fun _ => ?_) fun _ => ?_
  · exact bind fun _ => bind fun _ => pure rfl
  · refine bind fun _ => ite (fun _ => ?_) fun _ => bind fun _ => pure rfl
    exact bind fun _ => pure rfl
  refine bind fun _ => ite (fun _ => ?_) fun _ => bind fun _ => ite (fun _ => ?_) fun _ => ?_
  · exact bind fun _ => pure rfl
  · exact bind fun _ => bind fun _ => pure rfl
  · exact bind fun _ => pure rfl

/-- No depth of descent yields a starred expression. -/
theorem unstarredAt (n : Nat) : UnstarredAt n := by
  induction n with
  | zero =>
      exact ⟨failure, failure, failure, failure, fun _ => failure, fun _ _ _ => failure, failure,
        failure, fun _ _ => failure, failure, failure, failure, failure⟩
  | succ n ih =>
      exact {
        expression := isUnstarred_expression ih
        disjunction := isUnstarred_disjunction ih
        conjunction := isUnstarred_conjunction ih
        inversion := isUnstarred_inversion ih
        binary := isUnstarred_binary ih
        binaryRest := fun level _ he => isUnstarred_binaryRest ih level he
        factor := isUnstarred_factor ih
        primary := by
          rw [primary]
          exact bind_of_yields ih.atom fun e he => ih.trailers e he
        trailers := fun _ he => isUnstarred_trailers ih he
        atom := isUnstarred_atom ih
        parenthesized := isUnstarred_parenthesized
        bracketed := isUnstarred_bracketed
        braced := isUnstarred_braced }

theorem isUnstarred_whole (n : Nat) : IsUnstarred (whole n) := by
  unfold whole
  refine bind_of_yields (unstarredAt n).expression fun e he =>
    bind fun _ => ite (fun _ => ?_) fun _ => ?_
  · exact bind fun _ => pure rfl
  · exact bind fun _ => ite (fun _ => pure he) fun _ => failure

end Curly.Parse

namespace Curly

/-- What parses is not starred. -/
theorem Expr.isStarred_of_ofText? {s : List Char} {e : Expr} (h : Expr.ofText? s = some e) :
    e.isStarred = false := by
  rw [Expr.ofText?] at h
  obtain ⟨ls, -, h⟩ := Option.bind_eq_some_iff.1 h
  obtain ⟨⟨e', rest⟩, hr, h⟩ := Option.bind_eq_some_iff.1 h
  cases h
  exact Parse.isUnstarred_whole _ ls e rest hr

end Curly
