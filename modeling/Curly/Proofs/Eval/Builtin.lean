import Curly.Proofs.Eval.Oblivious

/-!
Built-in functions and members are oblivious: what they do to the values that they are given, and
to the iterators that they go through, never reaches the generated function. All is put together
from the two hooks, which are assumed to be oblivious here.
-/

namespace Curly

/-- Hooks by which nothing reaches the generated function. -/
structure Hooks.IsOblivious free (h : Hooks) : Prop where
  call : ∀ f a, Eval.Oblivious free (h.call f a)
  next : ∀ id, Eval.Oblivious free (h.next id)

namespace Eval.Oblivious

variable {h : Hooks}

/-! ## Iteration -/

theorem isApart_of_iterOf? {v : Value} {it : Iter} (hit : iterOf? v = some it) :
    it.IsApart free := by
  unfold iterOf? at hit
  split at hit
  · obtain rfl := Option.some.inj hit
    trivial
  · obtain ⟨vs, -, rfl⟩ := Option.map_eq_some_iff.1 hit
    trivial

theorem iterator (v : Value) : Oblivious free (Eval.iterator v) := by
  unfold Eval.iterator
  split
  · exact pure _
  · split
    · rename_i hit
      exact newIterator (isApart_of_iterOf? hit)
    · exact throw _

variable {f : β → Value → Eval (ForInStep β)}

theorem foldItems (hf : ∀ b v, Oblivious free (f b v)) (vs : List Value) (b : β) :
    Oblivious free (Eval.foldItems f b vs) := by
  induction vs generalizing b with
  | nil => exact pure b
  | cons v vs ih =>
      rw [Eval.foldItems]
      refine bind (hf b v) fun s => ?_
      cases s with
      | done b => exact pure b
      | yield b => exact ih b

theorem foldNumbers (hf : ∀ b v, Oblivious free (f b v)) (step : Int) (n : Nat) (start : Int)
    (b : β) : Oblivious free (Eval.foldNumbers step f n start b) := by
  induction n generalizing start b with
  | zero => exact pure b
  | succ n ih =>
      rw [Eval.foldNumbers]
      refine bind (hf b (.int start)) fun s => ?_
      cases s with
      | done b => exact pure b
      | yield b => exact ih _ b

theorem foldNext {next : Eval (Option Value)} (hnext : Oblivious free next)
    (hf : ∀ b v, Oblivious free (f b v)) (fuel : Nat) (b : β) :
    Oblivious free (Eval.foldNext next f fuel b) := by
  induction fuel generalizing b with
  | zero => exact throw _
  | succ fuel ih =>
      rw [Eval.foldNext]
      refine bind hnext fun item => ?_
      cases item with
      | none => exact pure b
      | some v =>
          refine bind (hf b v) fun s => ?_
          cases s with
          | done b => exact pure b
          | yield b => exact ih b

theorem fold (hh : h.IsOblivious free) (hf : ∀ b v, Oblivious free (f b v)) (v : Value) (b : β) :
    Oblivious free (Eval.fold h v b f) := by
  unfold Eval.fold
  split
  · exact foldNext (hh.next _) hf _ b
  · exact foldNumbers hf _ _ _ b
  · split
    · exact foldItems hf _ b
    · exact throw _

theorem elements (hh : h.IsOblivious free) (v : Value) : Oblivious free (Eval.elements h v) := by
  unfold Eval.elements
  split
  · exact bind (fold hh (fun _ _ => pure _) _ _) fun _ => pure _
  · refine bind (ofExcept _) fun _ => ?_
    split
    · exact pure _
    · exact throw _

theorem contains (hh : h.IsOblivious free) (container v : Value) :
    Oblivious free (Eval.contains h container v) := by
  unfold Eval.contains
  split
  · exact ofExcept _
  · exact fold hh (fun _ _ => pure _) _ _

/-! ## Members -/

theorem keep (hh : h.IsOblivious free) (g : Value) (vs : List Value) :
    Oblivious free (Eval.keep h g vs) := by
  induction vs with
  | nil => exact pure []
  | cons v vs ih =>
      rw [Eval.keep]
      exact bind (hh.call _ _) fun _ => bind ih fun _ => pure _

theorem mapped (hh : h.IsOblivious free) (g : Value) (vs : List Value) :
    Oblivious free (Eval.mapped h g vs) := by
  induction vs with
  | nil => exact pure []
  | cons v vs ih =>
      rw [Eval.mapped]
      exact bind (hh.call _ _) fun _ => bind ih fun _ => pure _

theorem callMember (hh : h.IsOblivious free) (v : Value) (which : Member) (a : Arguments) :
    Oblivious free (Eval.callMember h v which a) := by
  unfold Eval.callMember
  refine bind (ofExcept _) fun args => ?_
  split
  case h_7 => exact bind (keep hh _ _) fun _ => pure _
  case h_8 => exact bind (mapped hh _ _) fun _ => pure _
  case h_9 => exact bind (contains hh _ _) fun _ => pure _
  case h_10 => exact throw _
  all_goals exact ofExcept _

/-! ## Functions

What follows a check is named `rest`: the check either fails or goes on with it. -/

/-- A check that fails, or else goes on. -/
theorem check {c : Prop} [Decidable c] (f : Fault) {rest : Unit → Eval α}
    (hrest : ∀ u, Oblivious free (rest u)) :
    Oblivious free (if c then MonadExcept.throw f >>= rest else rest ()) :=
  ite (bind (throw f) hrest) (hrest ())

theorem checkKeywords (function : String) (known : List String) (a : Arguments) :
    Oblivious free (Eval.checkKeywords function known a) := by
  unfold Eval.checkKeywords
  extract_lets n rest
  have hrest (u : Unit) : Oblivious free (rest u) := by
    unfold rest
    split
    · exact throw _
    · exact pure _
  exact check _ hrest

theorem keyOf (hh : h.IsOblivious free) (key? : Option Value) (v : Value) :
    Oblivious free (Eval.keyOf h key? v) := by
  cases key? with
  | none => exact pure v
  | some g => exact hh.call g _

theorem extreme (hh : h.IsOblivious free) (name : String) (op : CompareOp) (a : Arguments) :
    Oblivious free (Eval.extreme h name op a) := by
  unfold Eval.extreme
  extract_lets fallback key? rest
  clear_value fallback key?
  -- whatever is compared, the best one so far is carried along the elements
  have hrest (source : Value) : Oblivious free (rest source) := by
    refine bind (checkKeywords _ _ a) fun _ => check _ fun _ => bind (fold hh ?_ _ _) fun best => ?_
    · intro best v
      refine bind (keyOf hh _ v) fun k => ?_
      split
      · exact pure _
      · exact bind (ofExcept _) fun _ => pure _
    · split
      · exact pure _
      · exact pure _
      · exact throw _
  split
  · exact bind (throw _) hrest
  · exact bind (pure _) hrest
  · exact bind (pure _) hrest

theorem sum (hh : h.IsOblivious free) (a : Arguments) : Oblivious free (Eval.sum h a) := by
  unfold Eval.sum
  extract_lets rest
  have hrest (u : Unit) : Oblivious free (rest u) := by
    unfold rest
    split
    · exact throw _
    · refine bind (checkKeywords _ _ a) fun _ => bind (iterator _) fun id => ?_
      split
      · exact throw _
      · exact throw _
      · exact fold hh (fun _ _ => bind (ofExcept _) fun _ => pure _) _ _
  exact check _ hrest

theorem sorted (hh : h.IsOblivious free) (a : Arguments) : Oblivious free (Eval.sorted h a) := by
  unfold Eval.sorted
  refine bind (ofExcept _) fun args => ?_
  split
  · refine bind (elements hh _) fun vs => bind (checkKeywords _ _ a) fun _ => ?_
    extract_lets key? rest
    have hrest (reversed : Bool) : Oblivious free (rest reversed) := by
      refine bind (mapM (fun v => ?_) vs) fun keyed => bind (ofExcept _) fun _ => pure _
      exact bind (keyOf hh _ v) fun _ => pure _
    split
    · exact bind (ofExcept _) fun _ => bind (pure _) hrest
    · exact bind (pure _) hrest
  · exact throw _

theorem anyIs (hh : h.IsOblivious free) (truth : Bool) (v : Value) :
    Oblivious free (Eval.anyIs h truth v) :=
  fold hh (fun _ _ => pure _) _ _

theorem callBuiltin (hh : h.IsOblivious free) (name : String) (a : Arguments) :
    Oblivious free (Eval.callBuiltin h name a) := by
  unfold Eval.callBuiltin
  -- One case for each function, in the order of the definition.
  split
  · exact ofExcept _
  · exact bind (ofExcept _) fun _ => bind (anyIs hh _ _) fun _ => pure _
  · exact bind (ofExcept _) fun _ => bind (anyIs hh _ _) fun _ => pure _
  · exact bind (ofExcept _) fun _ => pure _
  · exact extreme hh _ _ a
  · exact extreme hh _ _ a
  · exact bind (ofExcept _) fun _ => pure _
  · refine bind (ofExcept _) fun args => ?_
    split
    · exact ofExcept _
    · exact throw _
  · exact sorted hh a
  · exact sum hh a
  · exact throw _

/-! ## Types and methods -/

theorem enumerated (a : Arguments) : Oblivious free (Eval.enumerated a) := by
  unfold Eval.enumerated
  refine bind (ofExcept _) fun counted => ?_
  obtain ⟨v, start⟩ := counted
  have hrest (count : Int) : Oblivious free (do
      let inner ← Eval.iterator v
      let id ← Eval.newIterator (.counted count inner)
      Pure.pure (Value.iterator id "enumerate")) :=
    bind (iterator v) fun inner => bind (newIterator trivial) fun _ => pure _
  cases start with
  | none => exact bind (pure _) hrest
  | some n => exact bind (ofExcept _) hrest

theorem zipped (a : Arguments) : Oblivious free (Eval.zipped a) := by
  unfold Eval.zipped
  refine bind (checkKeywords _ _ a) fun _ => bind (mapM iterator _) fun inner => ?_
  exact bind (newIterator (by trivial)) fun _ => pure _

theorem reversed (a : Arguments) : Oblivious free (Eval.reversed a) := by
  unfold Eval.reversed
  refine bind (ofExcept _) fun _ => bind (ofExcept _) fun args => ?_
  split
  · extract_lets iteratorOver
    have hover (typeName : String) (it : Iter) (hit : it.IsApart free) :
        Oblivious free (iteratorOver typeName it) :=
      bind (newIterator hit) fun _ => pure _
    split
    · exact hover _ _ trivial
    · exact hover _ _ trivial
    · exact hover _ _ trivial
    · exact throw _
    · exact hover _ _ trivial
    · exact throw _
  · exact throw _

theorem collected (hh : h.IsOblivious free) (name : String) (a : Arguments) :
    Oblivious free (Eval.collected h name a) := by
  unfold Eval.collected
  refine bind (ofExcept _) fun v? => ?_
  split
  · exact elements hh _
  · exact pure _

theorem callType (hh : h.IsOblivious free) (name : String) (a : Arguments) :
    Oblivious free (Eval.callType h name a) := by
  unfold Eval.callType
  -- One case for each type, in the order of the definition.
  split
  · exact bind (ofExcept _) fun _ => pure _
  · exact enumerated a
  · refine bind (ofExcept _) fun v? => ?_
    split
    · exact ofExcept _
    · exact pure _
  · exact ofExcept _
  · exact bind (collected hh _ a) fun _ => pure _
  · exact ofExcept _
  · exact reversed a
  · exact bind (collected hh _ a) fun _ => bind (ofExcept _) fun _ => pure _
  · exact ofExcept _
  · exact bind (collected hh _ a) fun _ => pure _
  · exact zipped a
  · exact throw _

theorem callOutputMethod (hh : h.IsOblivious free) (name : String) (a : Arguments) :
    Oblivious free (Eval.callOutputMethod h name a) := by
  unfold Eval.callOutputMethod
  refine bind (ofExcept _) fun v => ?_
  extract_lets rest
  have hrest (u : Unit) : Oblivious free (rest u) := pure _
  split
  · exact bind (gather v) hrest
  · exact bind (fold hh (fun _ w => bind (gather w) fun _ => pure _) v ()) hrest
  · exact bind (throw _) hrest

theorem callMethod (hh : h.IsOblivious free) (v : Value) (name : String) (a : Arguments) :
    Oblivious free (Eval.callMethod h v name a) := by
  unfold Eval.callMethod
  extract_lets isIterator
  refine ite (bind (mapM (fun w => ?_) _) fun _ => ofExcept _) (ofExcept _)
  exact ite (bind (elements hh w) fun _ => pure _) (pure _)

theorem callDescriptor (hh : h.IsOblivious free) (typeName name : String) (a : Arguments) :
    Oblivious free (Eval.callDescriptor h typeName name a) := by
  unfold Eval.callDescriptor
  split
  · exact callMethod hh _ _ a
  · exact throw _
  · exact ite (callMethod hh _ _ _) (throw _)

end Eval.Oblivious

end Curly
