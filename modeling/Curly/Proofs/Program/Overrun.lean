import Curly.Proofs.Program.Compilation
import Curly.Proofs.Program.Occurrence
import Curly.Proofs.Term.Overrun

/-!
How compilation fails. The texts of a tree are read in the order of the document, each in the scope
of the loops around it, and the first one that cannot be read is what the whole fails with. So a
template is refused with an error that its author can mend, unless this first text has a number that
is too long.
-/

namespace Curly

namespace Occurrence

/-- A number that is too long is there. -/
def Overruns : Occurrence → Prop
  | .access scope text => Term.AccessOverruns scope text.toList
  | .condition scope text => Term.ConditionOverruns scope text.toList
  | .foreign _ => False

theorem overran_read : (o : Occurrence) → (Overran o.read ↔ o.Overruns)
  | .access _ _ => Term.overran_readAccess
  | .condition _ _ => Term.overran_readCondition
  | .foreign _ => iff_of_false (Term.not_overran_error rfl) not_false

end Occurrence

/-! ## Generation reads the texts of a tree in turn -/

namespace Generation

/-- What is made of a result leaves the counter as it is. -/
theorem map_snd_bind_pure {α β : Type} (x : Generation α) (f : α → β) (c : LoopCounter) :
    ((x >>= fun a => pure (f a)) c).map Prod.snd = (x c).map Prod.snd := by
  show ((x c).bind fun r => .ok (f r.1, r.2)).map Prod.snd = _
  cases x c <;> rfl

/-- What is made of a result does not matter where the result does not. -/
theorem map_bind_pure {ε α β δ : Type} (x : Except ε α) (f : α → β) (d : δ) :
    (x >>= fun a => pure (f a)).map (fun _ => d) = x.map fun _ => d := by
  cases x <;> rfl

mutual

/-- Generation goes on behind a node if all that is read in it can be read, and fails as this does
if it cannot. -/
theorem map_snd_node (scope : Scope) (c : LoopCounter) : (n : Node) →
    (node scope n c).map Prod.snd =
      ((n.occurrences scope c).mapM Occurrence.read).map fun _ => c.after n.loops
  | .text text => rfl
  | .variable expression => by
      rw [node, lift_bind, Node.occurrences, List.mapM_cons, Occurrence.read]
      cases Term.readAccess scope expression.toList <;> rfl
  | .raw expression => by
      rw [node, lift_bind, Node.occurrences, List.mapM_cons, Occurrence.read]
      cases Term.readAccess scope expression.toList <;> rfl
  | .cond condition children => by
      have hchildren := map_snd_nodes scope c children
      rw [node, lift_bind, Node.occurrences, List.mapM_cons, Occurrence.read, Node.loops]
      cases Term.readCondition scope condition.toList with
      | error e => rfl
      | ok t =>
          -- a condition goes on if its own term and then those of its children can be read
          refine (map_snd_bind_pure (nodes scope children) _ c).trans (hchildren.trans ?_)
          exact (map_bind_pure _ (t :: ·) _).symm
  | .each items children => by
      have hchildren := map_snd_nodes (c.next.1 :: scope) (c.after 1) children
      rw [LoopCounter.after_after, Nat.add_comm 1] at hchildren
      rw [node, lift_bind, Node.occurrences, List.mapM_cons, Occurrence.read, Node.loops]
      cases Term.readAccess scope items.toList with
      | error e => rfl
      | ok t =>
          refine (congrArg (Except.map Prod.snd) (nextLoop_bind _ c)).trans ?_
          refine (map_snd_bind_pure (nodes (c.next.1 :: scope) children) _ _).trans
            (hchildren.trans ?_)
          exact (map_bind_pure _ (t :: ·) _).symm
  | .foreign typeName => rfl

theorem map_snd_nodes (scope : Scope) (c : LoopCounter) : (ns : List Node) →
    (nodes scope ns c).map Prod.snd =
      ((occurrencesIn scope c ns).mapM Occurrence.read).map fun _ => c.after (loopsOf ns)
  | [] => rfl
  | n :: ns => by
      have hfirst := map_snd_node scope c n
      have hrest := map_snd_nodes scope (c.after n.loops) ns
      rw [LoopCounter.after_after] at hrest
      rw [nodes, occurrencesIn, List.mapM_append, loopsOf]
      show ((node scope n c).bind fun r =>
        (nodes scope ns >>= fun rest => pure (r.1 rest)) r.2).map Prod.snd = _
      cases hr : node scope n c with
      | error e =>
          rw [hr] at hfirst
          -- what is read in the node fails with the same error
          cases hm : (n.occurrences scope c).mapM Occurrence.read with
          | error e' =>
              rw [hm] at hfirst
              cases hfirst
              rfl
          | ok ts =>
              rw [hm] at hfirst
              cases hfirst
      | ok r =>
          obtain ⟨front, c₁⟩ := r
          rw [hr] at hfirst
          cases hm : (n.occurrences scope c).mapM Occurrence.read with
          | error e' =>
              rw [hm] at hfirst
              cases hfirst
          | ok ts =>
              rw [hm] at hfirst
              obtain rfl : c₁ = c.after n.loops := Except.ok.inj hfirst
              refine (map_snd_bind_pure (nodes scope ns) front _).trans (hrest.trans ?_)
              exact (map_bind_pure _ (ts ++ ·) _).symm

end

end Generation

/-! ## Compilation -/

/-- The errors of a template that its author can mend: those of its syntax, of its structure, and of
its expressions. -/
def TemplateFailure.isUserError : TemplateFailure → Bool
  | .expression e => e.isUserError
  | .syntactic _ | .structural _ => true

namespace Program

/-- The program of a tree fails as the first text of the tree that cannot be read. -/
theorem failsWith_ofTree {Q : ExpressionFailure → Prop} {t : Tree} :
    (ofTree t).FailsWith Q ↔ (t.occurrences.mapM Occurrence.read).FailsWith Q := by
  have hsnd := Generation.map_snd_nodes [] {} t.children
  have hbody : (ofTree t).FailsWith Q ↔ (Generation.nodes [] t.children {}).FailsWith Q := by
    refine Except.failsWith_bind.trans (or_iff_left ?_)
    rintro ⟨r, -, h⟩
    exact Except.not_failsWith_ok _ h
  rw [hbody, ← Except.failsWith_map, hsnd, Except.failsWith_map]
  rfl

/-- That a program cannot run is an error of its author. -/
theorem failsWith_compile {Q : ExpressionFailure → Prop} (hQ : ∀ e, Q e → e.isUserError = false)
    {t : Tree} : (compile t).FailsWith Q ↔ (ofTree t).FailsWith Q := by
  refine Except.failsWith_bind.trans (or_iff_left ?_)
  rintro ⟨p, -, h⟩
  split at h
  · exact Except.not_failsWith_ok _ h
  · exact Bool.noConfusion (hQ _ (Except.failsWith_error.1 h))

end Program

end Curly
