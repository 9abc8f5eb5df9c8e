import Curly.Proofs.Except
import Curly.Value.Text

/-!
Which values have a text. The written form of a value shows all integers in it, and it is missing if
and only if one of them has too many digits.

A written form is put together from the texts of the integers that it shows. So there is one
induction on values, for whatever can be said of results along the integers that they show
(`Composes.written`).
-/

namespace Curly.Value

/-- An integer with few enough digits to be written. -/
def IsWritable (n : Int) : Prop := n.natAbs < Nat.pow 10 Reading.digitLimit

mutual

/-- The integers that the written form of a value shows. -/
def integers : Value → List Int
  | .int n => [n]
  | .list items | .tuple items | .set items => integersAll items
  | .dict entries => integersOfEntries entries
  | .range start stop step => start :: stop :: if step = 1 then [] else [step]
  | .object fields => integersOfFields fields
  | .slice lower upper step => lower.integers ++ (upper.integers ++ step.integers)
  | _ => []

/-- The integers in several values. -/
def integersAll : List Value → List Int
  | [] => []
  | v :: vs => v.integers ++ integersAll vs

/-- The integers in the entries of a dictionary. -/
def integersOfEntries : List (Value × Value) → List Int
  | [] => []
  | (k, v) :: es => k.integers ++ (v.integers ++ integersOfEntries es)

/-- The integers in the fields of an object. -/
def integersOfFields : List (String × Value) → List Int
  | [] => []
  | (_, v) :: fs => v.integers ++ integersOfFields fs

end

theorem mem_integersAll {n : Int} {vs : List Value} :
    n ∈ integersAll vs ↔ ∃ v ∈ vs, n ∈ v.integers := by
  induction vs with
  | nil => simp [integersAll]
  | cons v vs ih => simp [integersAll, ih]

theorem mem_integersOfEntries {n : Int} {es : List (Value × Value)} :
    n ∈ integersOfEntries es ↔ ∃ e ∈ es, n ∈ e.1.integers ∨ n ∈ e.2.integers := by
  induction es with
  | nil => simp [integersOfEntries]
  | cons e es ih => simp [integersOfEntries, ih, or_assoc]

theorem mem_integersOfFields {n : Int} {fs : List (String × Value)} :
    n ∈ integersOfFields fs ↔ ∃ f ∈ fs, n ∈ f.2.integers := by
  induction fs with
  | nil => simp [integersOfFields]
  | cons f fs ih => simp [integersOfFields, ih]

/-! ## What is said of written forms -/

/-- What can be said of results along the integers that they show: it holds of what shows none and
is there, of the text of an integer, and of results one after the other. -/
structure Composes (P : {α : Type} → List Int → Except Fault α → Prop) : Prop where
  ok {α : Type} (a : α) : P [] (.ok a)
  integerText (n : Int) : P [n] (integerText n)
  bind {α β : Type} {ms ns : List Int} {x : Except Fault α} {k : α → Except Fault β} (hx : P ms x)
    (hk : ∀ a, P ns (k a)) : P (ms ++ ns) (x >>= k)

namespace Composes

variable {P : {α : Type} → List Int → Except Fault α → Prop}

/-- What is made of a result shows nothing more. -/
theorem bind_ok (hP : Composes P) {α β : Type} {ms : List Int} {x : Except Fault α}
    {f : α → Except Fault β} (hx : P ms x) (hf : ∀ a, ∃ b, f a = .ok b) : P ms (x >>= f) := by
  rw [← List.append_nil ms]
  refine hP.bind hx fun a => ?_
  obtain ⟨b, hb⟩ := hf a
  rw [hb]
  exact hP.ok b

mutual

theorem written (hP : Composes P) : (v : Value) → P v.integers v.written
  | .int n => by
      rw [Value.written, integers]
      exact hP.integerText n
  | .list items => by
      rw [Value.written, integers]
      exact hP.bind_ok (hP.writtenAll items) fun _ => ⟨_, rfl⟩
  | .tuple items => by
      rw [Value.written, integers]
      refine hP.bind_ok (hP.writtenAll items) fun ss => ?_
      split
      · exact ⟨_, rfl⟩
      · exact ⟨_, rfl⟩
  | .set items => by
      rw [Value.written, integers]
      refine hP.bind_ok (hP.writtenAll items) fun ss => ?_
      split
      · exact ⟨_, rfl⟩
      · exact ⟨_, rfl⟩
  | .dict entries => by
      rw [Value.written, integers]
      exact hP.bind_ok (hP.writtenEntries entries) fun _ => ⟨_, rfl⟩
  | .range start stop step => by
      rw [Value.written, integers]
      show P ([start] ++ ([stop] ++ if step = 1 then [] else [step])) _
      refine hP.bind (hP.integerText start) fun a => hP.bind (hP.integerText stop) fun b => ?_
      -- a step of one is not written
      by_cases hstep : step = 1
      · rw [if_pos hstep, if_pos hstep]
        exact hP.ok _
      · rw [if_neg hstep, if_neg hstep]
        exact hP.bind_ok (hP.integerText step) fun _ => ⟨_, rfl⟩
  | .object fields => by
      rw [Value.written, integers]
      exact hP.bind_ok (hP.writtenFields fields) fun _ => ⟨_, rfl⟩
  | .slice lower upper step => by
      rw [Value.written, integers]
      exact hP.bind (hP.written lower) fun _ => hP.bind (hP.written upper) fun _ =>
        hP.bind_ok (hP.written step) fun _ => ⟨_, rfl⟩
  | .none | .bool _ | .float _ | .imaginary _ | .str _ | .bytes _ | .ellipsis | .closure ..
  | .helper _ | .builtin _ | .type _ | .method .. | .descriptor .. | .member .. | .iterator ..
  | .output => by
      rw [Value.written]
      exact hP.ok _

theorem writtenAll (hP : Composes P) : (vs : List Value) → P (integersAll vs) (writtenAll vs)
  | [] => by
      rw [Value.writtenAll]
      exact hP.ok _
  | v :: vs => by
      rw [Value.writtenAll, integersAll]
      exact hP.bind (hP.written v) fun _ => hP.bind_ok (hP.writtenAll vs) fun _ => ⟨_, rfl⟩

theorem writtenEntries (hP : Composes P) :
    (es : List (Value × Value)) → P (integersOfEntries es) (writtenEntries es)
  | [] => by
      rw [Value.writtenEntries]
      exact hP.ok _
  | (k, v) :: es => by
      rw [Value.writtenEntries, integersOfEntries]
      exact hP.bind (hP.written k) fun _ => hP.bind (hP.written v) fun _ =>
        hP.bind_ok (hP.writtenEntries es) fun _ => ⟨_, rfl⟩

theorem writtenFields (hP : Composes P) :
    (fs : List (String × Value)) → P (integersOfFields fs) (writtenFields fs)
  | [] => by
      rw [Value.writtenFields]
      exact hP.ok _
  | (_, v) :: fs => by
      rw [Value.writtenFields, integersOfFields]
      exact hP.bind (hP.written v) fun _ => hP.bind_ok (hP.writtenFields fs) fun _ => ⟨_, rfl⟩

end

theorem text (hP : Composes P) (v : Value) : P v.integers v.text := by
  rw [text.eq_def]
  split
  · exact hP.ok _
  · exact hP.written v

end Composes

/-! ## A text is there exactly if integers can be written -/

/-- What cannot be written holds an integer with too many digits. -/
def CanBeLong {α : Type} (x : Except Fault α) : Prop := x.FailsBy (· = .numberTooLong Option.none)

theorem canBeLong_integerText (n : Int) : CanBeLong (integerText n) := by
  rw [integerText]
  split
  · exact .of_ok _
  · exact .of_error rfl

theorem composes_canBeLong : Composes fun _ x => CanBeLong x where
  ok := .of_ok
  integerText := canBeLong_integerText
  bind hx hk := hx.bind fun a _ => hk a

theorem canBeLong_stringify (v : Value) : CanBeLong v.stringify := by
  unfold stringify
  split
  · exact .of_ok _
  · split
    · split
      · exact canBeLong_integerText _
      · exact .of_ok _
    · exact .of_ok _
  · exact composes_canBeLong.text _

/-- Whether a result is there exactly if all of some integers can be written. -/
def Shows {α : Type} (ns : List Int) (x : Except Fault α) : Prop :=
  (∃ a, x = .ok a) ↔ ∀ n ∈ ns, IsWritable n

namespace Shows

variable {α β : Type} {ms ns : List Int} {x : Except Fault α}

theorem of_ok (a : α) : Shows [] (.ok a : Except Fault α) :=
  ⟨fun _ => nofun, fun _ => ⟨a, rfl⟩⟩

theorem bind {k : α → Except Fault β} (hx : Shows ms x) (hk : ∀ a, Shows ns (k a)) :
    Shows (ms ++ ns) (x >>= k) := by
  have hbind : (∃ b, x >>= k = .ok b) ↔ ∃ a, x = .ok a ∧ ∃ b, k a = .ok b := by
    constructor
    · rintro ⟨b, hb⟩
      obtain ⟨a, ha, hkab⟩ := Except.bind_eq_ok_iff.1 hb
      exact ⟨a, ha, b, hkab⟩
    · rintro ⟨a, ha, b, hkab⟩
      exact ⟨b, Except.bind_eq_ok_iff.2 ⟨a, ha, hkab⟩⟩
  rw [Shows, hbind, List.forall_mem_append]
  constructor
  · rintro ⟨a, ha, hb⟩
    exact ⟨hx.1 ⟨a, ha⟩, (hk a).1 hb⟩
  · rintro ⟨hms, hns⟩
    obtain ⟨a, ha⟩ := hx.2 hms
    exact ⟨a, ha, (hk a).2 hns⟩

theorem integerText (n : Int) : Shows [n] (integerText n) := by
  rw [Shows, List.forall_mem_singleton, Value.integerText]
  split
  · next h => exact iff_of_true ⟨_, rfl⟩ h
  · next h =>
      refine iff_of_false ?_ h
      rintro ⟨_, hn⟩
      cases hn

end Shows

theorem composes_shows : Composes Shows where
  ok := .of_ok
  integerText := .integerText
  bind := .bind

/-- A value has no text for one reason only, an integer in it that has too many digits. -/
theorem text_eq_error_iff {v : Value} {f : Fault} :
    v.text = .error f ↔ f = .numberTooLong Option.none ∧ ∃ n ∈ v.integers, ¬IsWritable n := by
  -- the failure is always the same one, and there is one unless all integers can be written
  have hlong : CanBeLong v.text := composes_canBeLong.text v
  have hshows : (∃ s, v.text = .ok s) ↔ ∀ n ∈ v.integers, IsWritable n := composes_shows.text v
  cases hv : v.text with
  | ok s =>
      rw [hv] at hshows
      have hall : ∀ n ∈ v.integers, IsWritable n := hshows.1 ⟨s, rfl⟩
      constructor
      · exact nofun
      · rintro ⟨-, n, hn, hlong⟩
        exact (hlong (hall n hn)).elim
  | error e =>
      rw [hv] at hshows
      obtain rfl := hlong e hv
      constructor
      · intro h
        have hnot : ¬∀ n ∈ v.integers, IsWritable n := fun hall => by
          obtain ⟨s, hs⟩ := hshows.2 hall
          cases hs
        obtain ⟨n, hn⟩ := Classical.not_forall.1 hnot
        exact ⟨(Except.error.inj h).symm, n, Classical.not_imp.1 hn⟩
      · rintro ⟨rfl, -⟩
        rfl

end Curly.Value
