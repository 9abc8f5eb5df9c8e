import Curly.Program.Run

/-!
Obliviousness: what an evaluation can learn of the generated function that it runs in.

The variables of that function stand in one frame, and its output in one list. An evaluation is
*oblivious* if it behaves on every such frame and output as it does where there are only some of the
variables and no output, as long as it does not stop there at an unbound variable: it ends alike, it
leaves the output alone, and it sets no variables but some that are *free* to be assigned. This
module holds the rules by which evaluations are put together; that all of the evaluator is
oblivious, assignments to other variables of the function apart, follows in
`Curly.Proofs.Eval.Expr`.
-/

namespace Curly

/-- The variable that a fault says has no value. -/
def Fault.unbound? : Fault → Option String
  | .unboundLocal id | .unboundFree id => some id
  | _ => none

/-- Whether a fault is about a variable that has no value, though it may have one elsewhere: it is
free to be assigned, or has a value in a frame. -/
def Fault.Misses (free : List String) (f : Fault) (F : Frame) : Prop :=
  ∃ id, f.unbound? = some id ∧ (id ∈ free ∨ ∃ v, F.lookup id = some v)

/-- Whether names can be assigned in an environment without changing other variables of the
generated function than free ones: they are free, or the function around is another one. -/
def Env.Spares (free : List String) (env : Env) (names : List String) : Prop :=
  names ⊆ free ∨ ∀ b, env.binders.find? (·.ofFunction) = some b → b.frame ≠ Program.mainFrame

/-- A comprehension that goes on without changing other variables of the generated function than
free ones: it has a frame of its own, and assigns nothing else beyond it. -/
def Generator.IsApart (free : List String) (g : Generator) : Prop :=
  (g.env.binders.head?.map (·.frame)).getD 0 ≠ Program.mainFrame ∧
    g.env.Spares free
      (g.element.assigned ++ assignedOfOption g.value ++ assignedOfClauses g.clauses)

/-- An iterator that goes on without changing other variables of the generated function than free
ones. -/
def Iter.IsApart (free : List String) : Iter → Prop
  | .generated g => g.IsApart free
  | _ => True

/-- A frame that differs from another one at most in variables that are free to be assigned. -/
def Frame.Agrees (free : List String) (F₁ F : Frame) : Prop :=
  ∀ id, id ∉ free → F₁.lookup id = F.lookup id

variable {free : List String}

theorem Frame.Agrees.trans {F₂ F₁ F : Frame} (h₂ : F₂.Agrees free F₁) (h₁ : F₁.Agrees free F) :
    F₂.Agrees free F :=
  fun id hid => (h₂ id hid).trans (h₁ id hid)

/-- Setting a free variable leaves the others as they are. -/
theorem Frame.agrees_set {id : String} (hid : id ∈ free) (v : Value) (F : Frame) :
    (F.set id v).Agrees free F := by
  intro id' hid'
  have hne : id' ≠ id := fun h => hid' (h ▸ hid)
  rw [lookup_set, if_neg hne]

/-- What is missed in a frame is missed in one that agrees with it. -/
theorem Fault.Misses.of_agrees {f : Fault} {F₁ F : Frame} (h : f.Misses free F₁)
    (hF : F₁.Agrees free F) : f.Misses free F := by
  obtain ⟨id, hf, hid | ⟨v, hv⟩⟩ := h
  · exact ⟨id, hf, .inl hid⟩
  · by_cases hid : id ∈ free
    · exact ⟨id, hf, .inl hid⟩
    · exact ⟨id, hf, .inr ⟨v, (hF id hid).symm.trans hv⟩⟩

namespace Machine

/-- A machine on which no generated function puts out anything, though there is a frame for its
variables. -/
structure IsApart (free : List String) (m : Machine) : Prop where
  hasFrame : 0 < m.frames.size
  noOutput : m.output = none
  iterators : ∀ (id : Nat) (it : Iter), m.iterators[id]? = some it → it.IsApart free

/-- The same machine inside a generated function with variables and an output. -/
def inside (F : Frame) (out : List Value) (m : Machine) : Machine :=
  { m with frames := m.frames.setIfInBounds Program.mainFrame F, output := some out }

/-- All variables of the generated function that have a value on a machine have it in a frame, and
there is the output besides. -/
structure Shows (m : Machine) (F : Frame) : Prop where
  value : ∀ name v, m.valueOf Program.mainFrame name = some v → F.lookup name = some v
  result : ∃ v, F.lookup resultName = some v

/-- A machine and a frame after an evaluation, which shows the machine what it asks for and has
other values than before for free variables only. -/
structure Follows (free : List String) (m₁ : Machine) (F₁ F : Frame) : Prop where
  isApart : m₁.IsApart free
  shows : m₁.Shows F₁
  agrees : F₁.Agrees free F

theorem Follows.refl {m : Machine} {F : Frame} (hm : m.IsApart free) (hF : m.Shows F) :
    m.Follows free F F :=
  ⟨hm, hF, fun _ _ => rfl⟩

theorem Follows.trans {m₁ m₂ : Machine} {F₂ F₁ F : Frame} (h₂ : m₂.Follows free F₂ F₁)
    (h₁ : m₁.Follows free F₁ F) : m₂.Follows free F₂ F :=
  ⟨h₂.isApart, h₂.shows, h₂.agrees.trans h₁.agrees⟩

/-- A machine on which the variables of the generated function are as before shows the same
frame. -/
theorem Shows.of_valueOf_eq {m₁ m : Machine} {F : Frame} (hF : m.Shows F)
    (h : ∀ name, m₁.valueOf Program.mainFrame name = m.valueOf Program.mainFrame name) :
    m₁.Shows F :=
  ⟨fun name v hv => hF.value name v ((h name).symm.trans hv), hF.result⟩

theorem valueOf_inside {m : Machine} (hm : m.IsApart free) (F : Frame) (out : List Value)
    (name : String) : (m.inside F out).valueOf Program.mainFrame name = F.lookup name := by
  have hsize := hm.hasFrame
  simp [inside, valueOf, Program.mainFrame, hsize]

theorem valueOf_inside_of_ne {frame : Nat} (hf : frame ≠ Program.mainFrame) (m : Machine)
    (F : Frame) (out : List Value) (name : String) :
    (m.inside F out).valueOf frame name = m.valueOf frame name := by
  have hget : (m.frames.setIfInBounds Program.mainFrame F)[frame]? = m.frames[frame]? :=
    Array.getElem?_setIfInBounds_ne (Ne.symm hf)
  simp only [inside, valueOf, hget]

end Machine

namespace Eval

/-- A sequence goes on from where its first part ends. -/
theorem bind_of_ok {x : Eval α} {k : α → Eval β} {m m₁ : Machine} {a : α}
    (h : x m = .ok (a, m₁)) : (x >>= k) m = k a m₁ := by
  simp [Bind.bind, StateT.bind, Except.bind, h]

/-- A sequence ends where its first part fails. -/
theorem bind_of_error {x : Eval α} {k : α → Eval β} {m : Machine} {f : Fault}
    (h : x m = .error f) : (x >>= k) m = .error f := by
  simp [Bind.bind, StateT.bind, Except.bind, h]

/-- Whatever an evaluation ends with has a property. -/
def Yields (x : Eval α) (Q : α → Prop) : Prop := ∀ m a m₁, x m = .ok (a, m₁) → Q a

namespace Yields

theorem pure {a : α} {Q : α → Prop} (ha : Q a) : Yields (Pure.pure a : Eval α) Q := by
  intro m b m₁ h
  cases h
  exact ha

theorem throw (f : Fault) (Q : α → Prop) : Yields (MonadExcept.throw f : Eval α) Q := by
  intro m a m₁ h
  cases h

/-- What follows may count on what the first part yields. -/
theorem bind_of_yields {x : Eval α} {P : α → Prop} {k : α → Eval β} {Q : β → Prop}
    (hx : Yields x P) (hk : ∀ a, P a → Yields (k a) Q) : Yields (x >>= k) Q := by
  intro m b m₂ h
  cases hr : x m with
  | error f =>
      rw [bind_of_error hr] at h
      cases h
  | ok r =>
      rw [bind_of_ok hr] at h
      exact hk r.1 (hx m r.1 r.2 hr) r.2 b m₂ h

theorem bind {x : Eval α} {k : α → Eval β} {Q : β → Prop} (hk : ∀ a, Yields (k a) Q) :
    Yields (x >>= k) Q :=
  bind_of_yields (P := fun _ => True) (fun _ _ _ _ => trivial) fun a _ => hk a

theorem ofExcept {r : Except Fault α} {Q : α → Prop} (h : ∀ a, r = .ok a → Q a) :
    Yields (Eval.ofExcept r) Q := by
  cases r with
  | error f => exact throw f Q
  | ok a => exact pure (h a rfl)

theorem mapM {f : α → Eval β} {Q : β → Prop} (hf : ∀ a, Yields (f a) Q) (l : List α) :
    Yields (l.mapM f) fun bs => ∀ b ∈ bs, Q b := by
  induction l with
  | nil => exact pure fun b hb => absurd hb List.not_mem_nil
  | cons a l ih =>
      rw [List.mapM_cons]
      refine bind_of_yields (hf a) fun b hb => bind_of_yields ih fun bs hbs => pure ?_
      intro c hc
      obtain rfl | hc := List.mem_cons.1 hc
      · exact hb
      · exact hbs c hc

end Yields

/-- An evaluation that makes no difference between a machine and the same machine inside a generated
function, unless it misses a variable of the function. Of these variables it sets free ones only. -/
def Oblivious (free : List String) (x : Eval α) : Prop :=
  ∀ (m : Machine) (F : Frame) (out : List Value), m.IsApart free → m.Shows F →
    (∃ f, x m = .error f ∧ f.Misses free F) ∨
    (∃ f, x m = .error f ∧ x (m.inside F out) = .error f) ∨
    ∃ a m₁ F₁, x m = .ok (a, m₁) ∧ x (m.inside F out) = .ok (a, m₁.inside F₁ out) ∧
      m₁.Follows free F₁ F

namespace Oblivious

/-! ## Putting evaluations together -/

theorem pure (a : α) : Oblivious free (Pure.pure a : Eval α) := by
  intro m F out hm hF
  exact .inr (.inr ⟨a, m, F, rfl, rfl, .refl hm hF⟩)

theorem throw (f : Fault) : Oblivious free (MonadExcept.throw f : Eval α) := by
  intro m F out _ _
  exact .inr (.inl ⟨f, rfl, rfl⟩)

theorem ofExcept (r : Except Fault α) : Oblivious free (Eval.ofExcept r) := by
  cases r with
  | ok a => exact pure a
  | error f => exact throw f

/-- A sequence where the first part has been done. -/
theorem of_follows {x : Eval α} {k : α → Eval β} {m m₁ : Machine} {F F₁ : Frame}
    {out : List Value} {a : α} (h : x m = .ok (a, m₁))
    (h' : x (m.inside F out) = .ok (a, m₁.inside F₁ out)) (hm₁ : m₁.Follows free F₁ F)
    (hk : Oblivious free (k a)) :
    (∃ f, (x >>= k) m = .error f ∧ f.Misses free F) ∨
    (∃ f, (x >>= k) m = .error f ∧ (x >>= k) (m.inside F out) = .error f) ∨
    ∃ b m₂ F₂, (x >>= k) m = .ok (b, m₂) ∧
      (x >>= k) (m.inside F out) = .ok (b, m₂.inside F₂ out) ∧ m₂.Follows free F₂ F := by
  rw [bind_of_ok h, bind_of_ok h']
  obtain ⟨f, hf, hu⟩ | he | ⟨b, m₂, F₂, h₂, h₂', hm₂⟩ := hk m₁ F₁ out hm₁.isApart hm₁.shows
  · exact .inl ⟨f, hf, hu.of_agrees hm₁.agrees⟩
  · exact .inr (.inl he)
  · exact .inr (.inr ⟨b, m₂, F₂, h₂, h₂', hm₂.trans hm₁⟩)

/-- What follows may count on what the first part yields. -/
theorem bind_of_yields {x : Eval α} {k : α → Eval β} {Q : α → Prop} (hx : Oblivious free x)
    (hQ : Yields x Q) (hk : ∀ a, Q a → Oblivious free (k a)) : Oblivious free (x >>= k) := by
  intro m F out hm hF
  obtain ⟨f, hf, hu⟩ | ⟨f, hf, hf'⟩ | ⟨a, m₁, F₁, h, h', hm₁⟩ := hx m F out hm hF
  · exact .inl ⟨f, bind_of_error hf, hu⟩
  · exact .inr (.inl ⟨f, bind_of_error hf, bind_of_error hf'⟩)
  · exact of_follows h h' hm₁ (hk a (hQ m a m₁ h))

theorem bind {x : Eval α} {k : α → Eval β} (hx : Oblivious free x)
    (hk : ∀ a, Oblivious free (k a)) : Oblivious free (x >>= k) :=
  bind_of_yields hx (Q := fun _ => True) (fun _ _ _ _ => trivial) fun a _ => hk a

theorem map {x : Eval α} (f : α → β) (hx : Oblivious free x) : Oblivious free (f <$> x) := by
  rw [map_eq_pure_bind]
  exact bind hx fun a => pure (f a)

theorem ite {c : Prop} [Decidable c] {x y : Eval α} (hx : Oblivious free x)
    (hy : Oblivious free y) : Oblivious free (if c then x else y) := by
  by_cases h : c
  · rwa [if_pos h]
  · rwa [if_neg h]

theorem foldlM {f : β → α → Eval β} (hf : ∀ b a, Oblivious free (f b a)) (l : List α) (b : β) :
    Oblivious free (l.foldlM f b) := by
  induction l generalizing b with
  | nil => exact pure b
  | cons a l ih =>
      rw [List.foldlM_cons]
      exact bind (hf b a) fun b' => ih b'

theorem mapM {f : α → Eval β} (hf : ∀ a, Oblivious free (f a)) (l : List α) :
    Oblivious free (l.mapM f) := by
  induction l with
  | nil => exact pure []
  | cons a l ih =>
      rw [List.mapM_cons]
      exact bind (hf a) fun b => bind ih fun bs => pure (b :: bs)

/-! ## What evaluations do to a machine -/

/-- An evaluation that only changes the machine, and this apart from the variables and the output of
the generated function. -/
theorem of_update {x : Eval α} {a : α} {u : Machine → Machine}
    (hx : ∀ m, x m = .ok (a, u m))
    (hin : ∀ m F out, m.IsApart free → u (m.inside F out) = (u m).inside F out)
    (hu : ∀ m, m.IsApart free → (u m).IsApart free)
    (hsame : ∀ m name,
      (u m).valueOf Program.mainFrame name = m.valueOf Program.mainFrame name) :
    Oblivious free x := by
  intro m F out hm hF
  refine .inr (.inr ⟨a, u m, F, hx m, by rw [hx, hin m F out hm], hu m hm, ?_, fun _ _ => rfl⟩)
  exact hF.of_valueOf_eq (hsame m)

/-- The variables of another frame may be set. -/
theorem setVariable {frame : Nat} (hf : frame ≠ Program.mainFrame) (name : String) (v : Value) :
    Oblivious free (Eval.setVariable frame name v) := by
  apply of_update (u := fun m => m.setVariable frame name v) (fun m => rfl)
  · intro m F out _
    -- The two changes are made to different frames, so they commute.
    have hframes : (m.frames.setIfInBounds Program.mainFrame F).modify frame (Frame.set name v) =
        (m.frames.modify frame (Frame.set name v)).setIfInBounds Program.mainFrame F := by
      apply Array.ext_getElem?
      intro i
      by_cases h₀ : Program.mainFrame = i
      · subst h₀
        simp only [Array.getElem?_modify, Array.getElem?_setIfInBounds, Array.size_modify, hf,
          if_false, if_true]
      · simp only [Array.getElem?_modify, Array.getElem?_setIfInBounds, h₀, if_false]
    simp only [Machine.inside, Machine.setVariable, hframes]
  · intro m hm
    refine ⟨?_, hm.noOutput, hm.iterators⟩
    simpa [Machine.setVariable] using hm.hasFrame
  · intro m id
    simp [Machine.valueOf, Machine.setVariable, Array.getElem?_modify, hf]

/-- A free variable of the generated function may be set: it is set in the frame around the machine,
too. -/
theorem setFree {name : String} (hname : name ∈ free) (v : Value) :
    Oblivious free (Eval.setVariable Program.mainFrame name v) := by
  intro m F out hm hF
  have hsize := hm.hasFrame
  -- it is the same to set the variable before or after the frame is put around the machine
  have hframes : (m.frames.setIfInBounds Program.mainFrame F).modify Program.mainFrame
      (Frame.set name v) = (m.frames.modify Program.mainFrame (Frame.set name v)).setIfInBounds
        Program.mainFrame (F.set name v) := by
    apply Array.ext_getElem?
    intro i
    by_cases h₀ : Program.mainFrame = i
    · subst h₀
      simp [Array.getElem_modify, Program.mainFrame, hsize]
    · simp [Array.getElem?_modify, h₀]
  have hset : Eval.setVariable Program.mainFrame name v (m.inside F out) =
      .ok ((), (m.setVariable Program.mainFrame name v).inside (F.set name v) out) := by
    show Except.ok ((), (m.inside F out).setVariable Program.mainFrame name v) = _
    rw [Machine.setVariable, Machine.inside, hframes]
    rfl
  have hvalue (id : String) : (m.setVariable Program.mainFrame name v).valueOf
      Program.mainFrame id = if id = name then some v else m.valueOf Program.mainFrame id := by
    have hmain : Program.mainFrame < m.frames.size := hsize
    simp [Machine.valueOf, Machine.setVariable, hmain, Array.getElem_modify, Frame.lookup_set]
  refine .inr (.inr ⟨(), m.setVariable Program.mainFrame name v, F.set name v, rfl, hset, ?_, ?_,
    Frame.agrees_set hname v F⟩)
  · refine ⟨?_, hm.noOutput, hm.iterators⟩
    simpa [Machine.setVariable] using hsize
  · refine ⟨fun id w hw => ?_, ?_⟩
    · rw [hvalue] at hw
      rw [Frame.lookup_set]
      split at hw
      case isTrue hid => rwa [if_pos hid]
      case isFalse hid =>
        rw [if_neg hid]
        exact hF.value id w hw
    · rw [Frame.lookup_set]
      obtain ⟨w, hw⟩ := hF.result
      split
      · exact ⟨v, rfl⟩
      · exact ⟨w, hw⟩

/-- A new frame is another one. -/
theorem newFrame_bind {k : Nat → Eval α} (vars : Frame)
    (hk : ∀ frame, frame ≠ Program.mainFrame → Oblivious free (k frame)) :
    Oblivious free (Eval.newFrame vars >>= k) := by
  intro m F out hm hF
  let m₁ : Machine := { m with frames := m.frames.push vars }
  have hmain : Program.mainFrame < m.frames.size := hm.hasFrame
  have hsize : (m.inside F out).frames.size = m.frames.size := by simp [Machine.inside]
  have hok : Eval.newFrame vars m = .ok (m.frames.size, m₁) := rfl
  -- the new frame comes behind all others, and the one of the program stays where it is
  have hok' : Eval.newFrame vars (m.inside F out) = .ok (m.frames.size, m₁.inside F out) := by
    have hpush : (m.frames.setIfInBounds Program.mainFrame F).push vars =
        (m.frames.push vars).setIfInBounds Program.mainFrame F := by
      apply Array.ext_getElem?
      intro i
      by_cases h₀ : Program.mainFrame = i
      · subst h₀
        have hset : Program.mainFrame < (m.frames.setIfInBounds Program.mainFrame F).size := by
          simpa using hmain
        have hpush : Program.mainFrame < (m.frames.push vars).size := by
          simpa using Nat.lt_succ_of_lt hmain
        rw [Array.getElem?_push_lt hset, Array.getElem_setIfInBounds_self,
          Array.getElem?_setIfInBounds_self_of_lt hpush]
      · simp [Array.getElem?_push, h₀]
    simp [Eval.newFrame, m₁, Machine.inside, hpush, modifyGet, MonadStateOf.modifyGet,
      StateT.modifyGet, Pure.pure, Except.pure]
  have hm₁ : m₁.Follows free F F := by
    refine ⟨⟨?_, hm.noOutput, hm.iterators⟩, hF.of_valueOf_eq fun name => ?_, fun _ _ => rfl⟩
    · simp [m₁]
    · rw [Machine.valueOf, Machine.valueOf, Array.getElem?_push_lt hmain,
        Array.getElem?_eq_getElem hmain]
  exact of_follows hok hok' hm₁ (hk m.frames.size (Nat.ne_of_gt hmain))

/-- An iterator that leaves the generated function alone may be made. -/
theorem newIterator {it : Iter} (hit : it.IsApart free) : Oblivious free (Eval.newIterator it) := by
  intro m F out hm hF
  refine .inr (.inr
    ⟨m.iterators.size, { m with iterators := m.iterators.push it }, F, rfl, rfl, ?_⟩)
  refine ⟨⟨hm.hasFrame, hm.noOutput, ?_⟩, hF.of_valueOf_eq fun _ => rfl, fun _ _ => rfl⟩
  intro id it' hget
  rw [Array.getElem?_push] at hget
  split at hget
  · obtain rfl := Option.some.inj hget
    exact hit
  · exact hm.iterators id it' hget

/-- An iterator may be changed for one that leaves the generated function alone. -/
theorem setIterator {it : Iter} (id : Nat) (hit : it.IsApart free) :
    Oblivious free (Eval.setIterator id it) := by
  apply of_update (u := fun m => { m with iterators := m.iterators.setIfInBounds id it })
    (fun m => rfl) (fun m F out _ => rfl) (fun m hm => ?_) (fun m name => rfl)
  refine ⟨hm.hasFrame, hm.noOutput, ?_⟩
  intro id' it' hget
  rw [Array.getElem?_setIfInBounds] at hget
  split at hget
  · split at hget
    · obtain rfl := Option.some.inj hget
      exact hit
    · cases hget
  · exact hm.iterators id' it' hget

/-- Functions may be counted. -/
theorem newClosure : Oblivious free Eval.newClosure := by
  intro m F out hm hF
  exact .inr (.inr ⟨m.closures, { m with closures := m.closures + 1 }, F, rfl, rfl,
    ⟨hm.hasFrame, hm.noOutput, hm.iterators⟩, hF.of_valueOf_eq fun _ => rfl, fun _ _ => rfl⟩)

/-- The machine may be looked at where the generated function makes no difference. -/
theorem get_bind {k : Machine → Eval α} (hk : ∀ m, m.IsApart free → Oblivious free (k m))
    (hsame : ∀ m F out, k (m.inside F out) = k m) : Oblivious free (get >>= k) := by
  intro m F out hm hF
  have hget (m : Machine) : (get : Eval Machine) m = .ok (m, m) := rfl
  rw [bind_of_ok (hget m), bind_of_ok (hget _), hsame]
  exact hk m hm m F out hm hF

/-- There is no output to be read. -/
theorem gathered_of_isApart {m : Machine} (hm : m.IsApart free) :
    Eval.gathered m = .error (.unboundFree resultName) := by
  have hget : (get : Eval Machine) m = .ok (m, m) := rfl
  rw [Eval.gathered, bind_of_ok hget, hm.noOutput]
  rfl

/-- There is no output to be added to. -/
theorem gather (v : Value) : Oblivious free (Eval.gather v) := by
  intro m F out hm hF
  obtain ⟨w, hw⟩ := hF.result
  refine .inl ⟨.unboundFree resultName, ?_, resultName, rfl, .inr ⟨w, hw⟩⟩
  have hget : (get : Eval Machine) m = .ok (m, m) := rfl
  rw [Eval.gather, bind_of_ok hget, hm.noOutput]
  rfl

/-! ## Variables -/

/-- What stands under a name outside all scopes does not depend on the machine. -/
theorem global (id : String) : Oblivious free (Eval.global id) := by
  unfold Eval.global
  split
  · exact pure _
  · exact pure _
  · exact throw _

/-- A variable of the generated function is seen only if it has a value. -/
theorem load (env : Env) (id : String) : Oblivious free (Eval.load env id) := by
  unfold Eval.load
  split
  · exact global id
  · rename_i b _
    intro m F out hm hF
    have hget (m : Machine) : (get : Eval Machine) m = .ok (m, m) := rfl
    rw [bind_of_ok (hget m), bind_of_ok (hget _)]
    have hvar : (m.inside F out).valueOf b.frame id =
        if b.frame = Program.mainFrame then F.lookup id else m.valueOf b.frame id := by
      by_cases hb : b.frame = Program.mainFrame
      · rw [if_pos hb, hb, Machine.valueOf_inside hm]
      · rw [if_neg hb, Machine.valueOf_inside_of_ne hb]
    rw [hvar]
    cases hv : m.valueOf b.frame id with
    | none =>
        -- the fault is the same unless the function has the variable
        cases hw : (if b.frame = Program.mainFrame then F.lookup id else none) with
        | none =>
            right
            left
            by_cases hb : some b = env.binders.head?
            · simp only [if_pos hb]
              exact ⟨_, rfl, rfl⟩
            · simp only [if_neg hb]
              exact ⟨_, rfl, rfl⟩
        | some w =>
            left
            have hid : F.lookup id = some w := by
              by_cases hb : b.frame = Program.mainFrame
              · rwa [if_pos hb] at hw
              · rw [if_neg hb] at hw
                cases hw
            by_cases hb : some b = env.binders.head?
            · simp only [if_pos hb]
              exact ⟨_, rfl, id, rfl, .inr ⟨w, hid⟩⟩
            · simp only [if_neg hb]
              exact ⟨_, rfl, id, rfl, .inr ⟨w, hid⟩⟩
    | some v =>
        have hv' : (if b.frame = Program.mainFrame then F.lookup id else some v) = some v := by
          by_cases hb : b.frame = Program.mainFrame
          · rw [hb] at hv
            rw [if_pos hb, hF.value id v hv]
          · rw [if_neg hb]
        rw [hv']
        cases v with
        | output =>
            by_cases hid : id = resultName
            · obtain ⟨w, hw⟩ := hF.result
              left
              simp only [if_pos hid]
              exact ⟨_, bind_of_error (gathered_of_isApart hm), resultName, rfl, .inr ⟨w, hw⟩⟩
            · simp only [if_neg hid]
              exact .inr (.inr ⟨_, m, F, rfl, rfl, .refl hm hF⟩)
        | _ => exact .inr (.inr ⟨_, m, F, rfl, rfl, .refl hm hF⟩)

/-- A name can be assigned in an environment that spares it. -/
theorem store {env : Env} {names : List String} {id : String} (henv : env.Spares free names)
    (hid : id ∈ names) (v : Value) : Oblivious free (Eval.store env id v) := by
  unfold Eval.store
  split
  · rename_i b hb
    by_cases hmain : b.frame = Program.mainFrame
    · obtain hfree | hfun := henv
      · rw [hmain]
        exact setFree (hfree hid) v
      · exact absurd hmain (hfun b hb)
    · exact setVariable hmain id v
  · exact pure ()

end Oblivious

end Eval

end Curly
