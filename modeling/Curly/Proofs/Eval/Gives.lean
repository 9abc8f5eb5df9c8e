import Curly.Proofs.Eval.Oblivious

/-!
Evaluations with a result that is known without a machine. An evaluation *reads* a result if it
comes to it on a machine and leaves the machine as it is; it *gives* a result if it comes to it on
every machine that has a frame for the variables of the generated function, and leaves it such a
frame. Both go through sequences step by step, so the result of a whole is put together like the
whole.
-/

namespace Curly

/-- A machine with a frame for the variables of the generated function. -/
def Machine.HasFrame (m : Machine) : Prop := Program.mainFrame < m.frames.size

namespace Eval

variable {α β : Type} {x : Eval α} {r : Except Fault α}

/-- Whether an evaluation comes to a result on a machine, and leaves the machine as it is. -/
def Reads (m : Machine) (x : Eval α) (r : Except Fault α) : Prop := x m = r.map fun a => (a, m)

/-- Whether an evaluation comes to a result on every machine that has a frame for the variables of
the generated function. -/
def Gives (x : Eval α) (r : Except Fault α) : Prop :=
  ∀ m : Machine, m.HasFrame → ∃ m₁ : Machine, m₁.HasFrame ∧ x m = r.map fun a => (a, m₁)

namespace Reads

variable {m : Machine}

theorem pure (m : Machine) (a : α) : Reads m (Pure.pure a) (.ok a) := rfl

theorem ofExcept (m : Machine) (r : Except Fault α) : Reads m (Eval.ofExcept r) r := by
  cases r with
  | error f => rfl
  | ok a => rfl

theorem bind {k : α → Eval β} {s : α → Except Fault β} (hx : Reads m x r)
    (hk : ∀ a, Reads m (k a) (s a)) : Reads m (x >>= k) (r >>= s) := by
  cases r with
  | error f => exact bind_of_error hx
  | ok a =>
      have hfirst : x m = .ok (a, m) := hx
      exact (bind_of_ok hfirst).trans (hk a)

end Reads

namespace Gives

theorem pure (a : α) : Gives (Pure.pure a) (.ok a) := fun m hm => ⟨m, hm, rfl⟩

theorem ofExcept (r : Except Fault α) : Gives (Eval.ofExcept r) r :=
  fun m hm => ⟨m, hm, Reads.ofExcept m r⟩

theorem bind {k : α → Eval β} {s : α → Except Fault β} (hx : Gives x r)
    (hk : ∀ a, Gives (k a) (s a)) : Gives (x >>= k) (r >>= s) := by
  intro m hm
  obtain ⟨m₁, hm₁, h⟩ := hx m hm
  cases r with
  | error f => exact ⟨m₁, hm₁, bind_of_error h⟩
  | ok a =>
      obtain ⟨m₂, hm₂, h₂⟩ := hk a m₁ hm₁
      exact ⟨m₂, hm₂, (bind_of_ok h).trans h₂⟩

theorem mapM {f : α → Eval β} {g : α → Except Fault β} (hf : ∀ a, Gives (f a) (g a))
    (l : List α) : Gives (l.mapM f) (l.mapM g) := by
  induction l with
  | nil => exact pure []
  | cons a l ih =>
      rw [List.mapM_cons, List.mapM_cons]
      exact bind (hf a) fun b => bind ih fun bs => pure (b :: bs)

/-- What an evaluation ends with on a machine. -/
theorem run_eq {m : Machine} (h : Gives x r) (hm : m.HasFrame) :
    (do let y ← x m; Pure.pure y.1 : Except Fault α) = r := by
  obtain ⟨m₁, -, h⟩ := h m hm
  rw [h]
  cases r with
  | error f => rfl
  | ok a => rfl

end Gives

end Eval

end Curly
