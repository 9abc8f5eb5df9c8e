import Curly.Proofs.Program.Compilation
import Curly.Proofs.Program.Escaping
import Curly.Proofs.Program.Faults

/-!
Simple templates on data. The program of a simple template makes of any data the text that its nodes
tell, or fails as they do; it never stops at a variable, for simple terms assign none. On data that
are nothing but data nothing fails: what is missing, of another kind or without an order is no
fault, and all that is put out has a text.
-/

namespace Curly

variable {p : Program}

namespace Program

variable {t : Tree}

/-- **Simple templates are told without a machine.** The program of a tree of simple terms makes of
any data the text that its nodes tell, or fails as they do. -/
theorem run_of_isSimple (hp : ofTree t = .ok p) (hsimple : ∀ u ∈ p.terms, u.isSimple = true)
    (context : Value) : p.run context = t.text context := by
  have hread := nodesRead_of_ofTree Term.isStable_isSimple hp hsimple
  have ha : p.assigned = [] :=
    assigned_of_stmtsArePlain p.body (stmtsArePlain_of_isSimple hp hsimple)
  obtain ⟨meaning, c, hmeaning, hsay⟩ := say_of_ofTree hp ha
  obtain ⟨c', hgen⟩ := ofTree_eq_ok_iff.1 hp
  have hown : p.HasOwnNames := by
    refine ⟨(Generation.isOfLoop_of_nodes t.children hgen rfl).2, fun id hid => ?_⟩
    rw [ha] at hid
    exact absurd hid List.not_mem_nil
  obtain ⟨meaning', hmeaning', hgives⟩ :=
    Generation.gives_of_nodes hown ha id t.children hgen rfl Scope.isOf_nil hread
  -- what the nodes mean and what they say as simple nodes is told of one and the same meaning
  cases hmeaning.symm.trans hmeaning'
  have hshows : Frame.Shows [(contextName, context)] [] context context := by
    intro b hb
    have hb : b = contextName := by simpa [Term.thisName] using hb
    subst hb
    simp [Term.boundTo]
  have htext : Meaning.about meaning context = t.text context := by
    have hstart : Meaning.start.HasFrame := Nat.one_pos
    have hrun := (hgives p.bound_subset_varNames (Scope.isKnown_nil p) _ _ _ hshows).run_eq hstart
    rw [Tree.text, ← hrun, Meaning.about]
    dsimp only [StateT.run]
    cases meaning [(contextName, context)] Meaning.start <;> rfl
  obtain ⟨f, id, hf, hid, -⟩ | heq := run_of_say hsay context
  · -- simple nodes do not stop at an unbound variable
    have hbound : (t.text context).FailsBy (·.unbound? = none) :=
      (Fault.Covers.isBound.textsOfNodes trivial trivial t.children hread).bind fun _ _ => .of_ok _
    rw [hbound f (htext ▸ hf)] at hid
    cases hid
  · rw [heq, htext]

end Program

end Curly
