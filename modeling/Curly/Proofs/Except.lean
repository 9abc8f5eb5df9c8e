/-!
When a computation that may fail succeeds: an inversion lemma for each way to go on after a result.
And how it may fail: a kind of errors is kept by every way to go on, and an error comes from the
first part that fails.
-/

namespace Except

variable {ε ε' α β : Type}

theorem map_eq_ok_iff {x : Except ε α} {f : α → β} {b : β} :
    x.map f = .ok b ↔ ∃ a, x = .ok a ∧ f a = b := by
  cases x <;> simp [Except.map]

theorem mapError_eq_ok_iff {x : Except ε α} {f : ε → ε'} {a : α} :
    x.mapError f = .ok a ↔ x = .ok a := by
  cases x with
  | error e => exact ⟨nofun, nofun⟩
  | ok b => exact ⟨fun h => congrArg ok (ok.inj h), fun h => congrArg ok (ok.inj h)⟩

theorem bind_eq_ok_iff {x : Except ε α} {k : α → Except ε β} {b : β} :
    x.bind k = .ok b ↔ ∃ a, x = .ok a ∧ k a = .ok b := by
  cases x <;> simp [Except.bind]

theorem bind_eq_error_iff {x : Except ε α} {k : α → Except ε β} {e : ε} :
    x >>= k = .error e ↔ x = .error e ∨ ∃ a, x = .ok a ∧ k a = .error e := by
  cases x with
  | error e' =>
      constructor
      · exact fun h => .inl (congrArg error (error.inj h))
      · rintro (h | ⟨_, h, -⟩)
        · exact congrArg error (error.inj h)
        · cases h
  | ok a =>
      constructor
      · exact fun h => .inr ⟨a, rfl, h⟩
      · rintro (h | ⟨b, hb, h⟩)
        · cases h
        · cases hb
          exact h

theorem map_eq_error_iff {x : Except ε α} {f : α → β} {e : ε} :
    x.map f = .error e ↔ x = .error e := by
  cases x with
  | error e' => exact ⟨fun h => congrArg error (error.inj h), fun h => congrArg error (error.inj h)⟩
  | ok a => exact ⟨nofun, nofun⟩

theorem mapError_eq_error_iff {x : Except ε α} {f : ε → ε'} {e : ε'} :
    x.mapError f = .error e ↔ ∃ e', x = .error e' ∧ f e' = e := by
  cases x with
  | error e' =>
      constructor
      · exact fun h => ⟨e', rfl, error.inj h⟩
      · rintro ⟨_, he, h⟩
        cases he
        exact congrArg error h
  | ok a => exact ⟨nofun, nofun⟩

theorem mapError_bind (f : ε → ε') (x : Except ε α) (k : α → Except ε β) :
    (x >>= k).mapError f = x.mapError f >>= fun a => (k a).mapError f := by
  cases x <;> rfl

theorem eq_ok_of_toOption {x : Except ε α} {a : α} (h : x.toOption = some a) : x = .ok a := by
  cases x with
  | error e => cases h
  | ok b => exact congrArg _ (Option.some.inj h)

/-- Whether a computation fails in ways of a kind only. -/
def FailsBy (Q : ε → Prop) (x : Except ε α) : Prop := ∀ e, x = .error e → Q e

namespace FailsBy

variable {Q : ε → Prop} {x : Except ε α}

theorem of_ok (a : α) : FailsBy Q (.ok a : Except ε α) := nofun

theorem of_error {e : ε} (he : Q e) : FailsBy Q (.error e : Except ε α) :=
  fun _ h => Except.error.inj h ▸ he

theorem bind {k : α → Except ε β} (hx : FailsBy Q x) (hk : ∀ a, x = .ok a → FailsBy Q (k a)) :
    FailsBy Q (x >>= k) := by
  cases x with
  | error e => exact of_error (hx e rfl)
  | ok a => exact hk a rfl

theorem mapM {f : α → Except ε β} (l : List α) (hf : ∀ a ∈ l, FailsBy Q (f a)) :
    FailsBy Q (l.mapM f) := by
  induction l with
  | nil => exact of_ok []
  | cons a l ih =>
      obtain ⟨ha, hl⟩ := List.forall_mem_cons.1 hf
      rw [List.mapM_cons]
      exact ha.bind fun b _ => (ih hl).bind fun bs _ => of_ok (b :: bs)

theorem foldlM {f : β → α → Except ε β} (l : List α) (hf : ∀ b a, FailsBy Q (f b a)) {b : β} :
    FailsBy Q (l.foldlM f b) := by
  induction l generalizing b with
  | nil => exact of_ok b
  | cons a l ih =>
      rw [List.foldlM_cons]
      exact (hf b a).bind fun _ _ => ih

theorem mono {R : ε → Prop} (hx : FailsBy Q x) (h : ∀ e, Q e → R e) : FailsBy R x :=
  fun e he => h e (hx e he)

/-- What fails in no way succeeds. -/
theorem exists_ok (hx : FailsBy (fun _ => False) x) : ∃ a, x = .ok a := by
  cases x with
  | error e => exact (hx e rfl).elim
  | ok a => exact ⟨a, rfl⟩

end FailsBy

/-- Whether a computation fails, and in a way of a kind. -/
def FailsWith (Q : ε → Prop) (x : Except ε α) : Prop := ∃ e, x = .error e ∧ Q e

section FailsWith

variable {Q : ε → Prop} {x : Except ε α}

theorem not_failsWith_ok (a : α) : ¬FailsWith Q (.ok a : Except ε α) := nofun

theorem failsWith_error {e : ε} : FailsWith Q (.error e : Except ε α) ↔ Q e :=
  ⟨fun ⟨_, h, he⟩ => Except.error.inj h ▸ he, fun he => ⟨e, rfl, he⟩⟩

theorem failsWith_eq {e : ε} : FailsWith (· = e) x ↔ x = .error e := by
  constructor
  · rintro ⟨_, h, rfl⟩
    exact h
  · exact fun h => ⟨e, h, rfl⟩

/-- A sequence fails as its first part does, or as the second one if the first one succeeds. -/
theorem failsWith_bind {k : α → Except ε β} :
    FailsWith Q (x >>= k) ↔ FailsWith Q x ∨ ∃ a, x = .ok a ∧ FailsWith Q (k a) := by
  cases x with
  | error e =>
      have herror : (Except.error e >>= k : Except ε β) = .error e := rfl
      rw [herror, failsWith_error, failsWith_error]
      exact ⟨.inl, fun h => h.resolve_right nofun⟩
  | ok a =>
      have hok : (Except.ok a >>= k : Except ε β) = k a := rfl
      rw [hok]
      constructor
      · exact fun h => .inr ⟨a, rfl, h⟩
      · rintro (h | ⟨b, hb, h⟩)
        · exact (not_failsWith_ok a h).elim
        · cases hb
          exact h

theorem failsWith_map {f : α → β} : FailsWith Q (x.map f) ↔ FailsWith Q x := by
  cases x with
  | error e =>
      rw [failsWith_error]
      exact failsWith_error
  | ok a => exact ⟨nofun, nofun⟩

theorem failsWith_mapError {Q : ε' → Prop} {f : ε → ε'} :
    FailsWith Q (x.mapError f) ↔ FailsWith (fun e => Q (f e)) x := by
  cases x with
  | error e =>
      rw [failsWith_error]
      exact failsWith_error
  | ok a => exact ⟨nofun, nofun⟩

/-- Of several computations the first one that fails decides how all of them fail. -/
theorem failsWith_mapM {f : α → Except ε β} {l : List α} :
    FailsWith Q (l.mapM f) ↔ ∃ front a back, l = front ++ a :: back ∧
      (∀ a' ∈ front, ∃ b, f a' = .ok b) ∧ FailsWith Q (f a) := by
  induction l with
  | nil =>
      constructor
      · exact fun h => (not_failsWith_ok [] h).elim
      · rintro ⟨front, a, back, heq, -⟩
        cases front <;> cases heq
  | cons a l ih =>
      -- the first one fails, or it succeeds and one behind it is the first to fail
      rw [List.mapM_cons, failsWith_bind]
      constructor
      · rintro (h | ⟨b, hb, h⟩)
        · exact ⟨[], a, l, rfl, nofun, h⟩
        · obtain h | ⟨bs, -, h⟩ := failsWith_bind.1 h
          · obtain ⟨front, a', back, rfl, hfront, ha'⟩ := ih.1 h
            exact ⟨a :: front, a', back, rfl, List.forall_mem_cons.2 ⟨⟨b, hb⟩, hfront⟩, ha'⟩
          · exact (not_failsWith_ok _ h).elim
      · rintro ⟨front, a', back, heq, hfront, ha'⟩
        cases front with
        | nil =>
            cases heq
            exact .inl ha'
        | cons a'' front =>
            cases heq
            obtain ⟨⟨b, hb⟩, hfront⟩ := List.forall_mem_cons.1 hfront
            exact .inr ⟨b, hb, failsWith_bind.2 (.inl (ih.2 ⟨front, a', back, rfl, hfront, ha'⟩))⟩

end FailsWith

theorem failsBy_of_exists_ok {Q : ε → Prop} {x : Except ε α} (h : ∃ a, x = .ok a) :
    x.FailsBy Q := by
  obtain ⟨a, ha⟩ := h
  rw [ha]
  exact .of_ok a

end Except
