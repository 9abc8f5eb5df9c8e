import Curly.Proofs.Token.Segment
import Curly.Proofs.Tree.Nesting

/-!
The tree of tokens put together: it has the nodes of both trees, one after the other, and where a
text ends the first ones and a text starts the others it has one text.
-/

namespace Curly

open Lexer Segment

/-- `NodesJoin ms ns r`: nodes put together, a text at the end of the first ones with a text at the
start of the others where both are there. -/
inductive NodesJoin : List Node → List Node → List Node → Prop
  | append (ms ns : List Node) : NodesJoin ms ns (ms ++ ns)
  | text (ms : List Node) (s t : String) (ns : List Node) :
      NodesJoin (ms ++ [.text s]) (.text t :: ns) (ms ++ .text (s ++ t) :: ns)

/-- Tokens put together follow one another, or have one text at the seam. -/
theorem joinTokens_cases (ts us : List Token) :
    joinTokens ts us = ts ++ us ∨
      ∃ front t u back, ts = front ++ [t] ∧ us = u :: back ∧ t.kind = .text ∧ u.kind = .text ∧
        joinTokens ts us = front ++ { t with value := t.value ++ u.value } :: back := by
  fun_induction joinTokens ts us with
  | case1 us => exact .inl rfl
  | case2 t u us hkinds => exact .inr ⟨[], t, u, us, rfl, rfl, hkinds.1, hkinds.2, rfl⟩
  | case3 t u us hkinds => exact .inl rfl
  | case4 t ts us hne ih =>
      obtain happend | ⟨front, t', u, back, rfl, rfl, ht', hu, hjoin⟩ := ih
      · exact .inl (congrArg (t :: ·) happend)
      · exact .inr ⟨t :: front, t', u, back, rfl, rfl, ht', hu, congrArg (t :: ·) hjoin⟩

/-- What is written flat and ends with a text is this text. -/
theorem Node.eq_text_of_flatten_append {n : Node} {l : List (TokenKind × String)} {value : String}
    (h : n.flatten = l ++ [(.text, value)]) : n = .text value ∧ l = [] := by
  have hlast : n.flatten.getLast? = some (.text, value) := by simp [h]
  cases n with
  | text value' =>
      rw [flatten] at h
      obtain ⟨hl, hvalue⟩ := List.append_inj' (show [] ++ [_] = l ++ [_] from h) rfl
      simp only [List.cons.injEq, Prod.mk.injEq, true_and, and_true] at hvalue
      exact ⟨congrArg Node.text hvalue, hl.symm⟩
  | _ =>
      rw [flatten] at hlast
      simp [List.getLast?_cons] at hlast

theorem Node.flatten_ne_nil (n : Node) : n.flatten ≠ [] := by
  cases n <;> simp [flatten]

/-- Nodes whose tokens end with a text end with it. -/
theorem exists_of_flattenAll_append_text {ns : List Node} {l : List (TokenKind × String)}
    {value : String} (h : flattenAll ns = l ++ [(.text, value)]) :
    ∃ front, ns = front ++ [.text value] ∧ flattenAll front = l := by
  obtain rfl | ⟨front, n, rfl⟩ := List.eq_nil_or_concat' ns
  · simp [flattenAll] at h
  obtain hnil | ⟨l', m, hm⟩ := List.eq_nil_or_concat' n.flatten
  · exact absurd hnil n.flatten_ne_nil
  rw [flattenAll_append, flattenAll, flattenAll, List.append_nil, hm, ← List.append_assoc] at h
  obtain ⟨hfront, hlast⟩ := List.append_inj' h rfl
  cases hlast
  obtain ⟨rfl, rfl⟩ := Node.eq_text_of_flatten_append hm
  rw [List.append_nil] at hfront
  exact ⟨front, rfl, hfront⟩

/-- Nodes whose tokens start with a text start with it. -/
theorem exists_of_flattenAll_text_cons {ns : List Node} {l : List (TokenKind × String)}
    {value : String} (h : flattenAll ns = (.text, value) :: l) :
    ∃ back, ns = .text value :: back ∧ flattenAll back = l := by
  cases ns with
  | nil => cases h
  | cons n ns =>
      rw [flattenAll] at h
      cases n with
      | text value' =>
          rw [Node.flatten, List.singleton_append] at h
          obtain ⟨hvalue, hrest⟩ := List.cons.inj h
          cases hvalue
          exact ⟨ns, rfl, hrest⟩
      | _ => simp [Node.flatten] at h

/-- **The tree of tokens put together** is that of the first ones with that of the others. -/
theorem Tree.exists_ofTokens_joinTokens {ts us : List Token} {s t : Tree}
    (hs : ofTokens ts = .ok s) (ht : ofTokens us = .ok t) :
    ∃ r, ofTokens (joinTokens ts us) = .ok r ∧ NodesJoin s.children t.children r.children := by
  obtain ⟨hsknown, hsflat⟩ := ofTokens_eq_ok_iff.1 hs
  obtain ⟨htknown, htflat⟩ := ofTokens_eq_ok_iff.1 ht
  obtain happend | ⟨front, t', u, back, rfl, rfl, ht', hu, hjoin⟩ := joinTokens_cases ts us
  · refine ⟨⟨s.children ++ t.children⟩,
      ofTokens_eq_ok_iff.2 ⟨areKnown_append.2 ⟨hsknown, htknown⟩, ?_⟩, .append _ _⟩
    rw [happend, List.map_append, ← hsflat, ← htflat]
    exact flattenAll_append _ _
  · -- the text at the seam is a node of both trees
    have htext {v : Token} (hv : v.kind = .text) : v.shape = (.text, v.value) := by
      rw [Token.shape, hv]
    rw [flatten, List.map_append, List.map_singleton, htext ht'] at hsflat
    rw [flatten, List.map_cons, htext hu] at htflat
    obtain ⟨ms, hms, hfront⟩ := exists_of_flattenAll_append_text hsflat
    obtain ⟨ns, hns, hback⟩ := exists_of_flattenAll_text_cons htflat
    rw [IsKnown, hms, areKnown_append] at hsknown
    rw [IsKnown, hns] at htknown
    refine ⟨⟨ms ++ .text (t'.value ++ u.value) :: ns⟩,
      ofTokens_eq_ok_iff.2 ⟨areKnown_append.2 ⟨hsknown.1, trivial, htknown.2⟩, ?_⟩, ?_⟩
    · have hseam : Token.shape { t' with value := t'.value ++ u.value } =
          (.text, t'.value ++ u.value) := htext ht'
      rw [hjoin, List.map_append, List.map_cons, hseam, ← hfront, ← hback]
      exact flattenAll_append _ _
    · rw [hms, hns]
      exact .text ms t'.value u.value ns

end Curly
