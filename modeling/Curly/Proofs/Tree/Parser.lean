import Curly.Proofs.Tree.Nesting

/-!
Where the nodes of a tree come from: a node that puts out text has the text of a token, and a node
that puts out a value without escaping it is a token of its own. So what holds of all tokens of a
template holds of all nodes of its tree.
-/

namespace Curly

mutual

/-- A node that puts out nothing but escaped values, and texts with a property. -/
def Node.IsEscaping (ok : String → Prop) : Node → Prop
  | .text text => ok text
  | .raw _ => False
  | .cond _ children | .each _ children => AreEscaping ok children
  | .variable _ | .foreign _ => True

/-- Nodes that put out nothing but escaped values, and texts with a property. -/
def AreEscaping (ok : String → Prop) : List Node → Prop
  | [] => True
  | n :: ns => n.IsEscaping ok ∧ AreEscaping ok ns

end

/-- A token that is no raw marker, and, if it is text, has a property. -/
def Token.IsEscaping (ok : String → Prop) (t : Token) : Prop :=
  t.kind ≠ .raw ∧ (t.kind = .text → ok t.value)

theorem Node.isEscaping_block {ok : String → Prop} {children : List Node}
    (h : AreEscaping ok children) (kind : BlockKind) (value : String) :
    (Node.block kind value children).IsEscaping ok := by
  cases kind with
  | cond => exact h
  | each => exact h

/-- A token that is a node on its own puts out what the node puts out. -/
theorem Token.isEscaping_of_leaf {ok : String → Prop} {t : Token} {n : Node} (ht : t.leaf? = some n)
    (h : t.IsEscaping ok) : n.IsEscaping ok := by
  obtain ⟨kind, value, place⟩ := t
  obtain ⟨hraw, htext⟩ := h
  cases kind
  all_goals cases ht
  · exact htext rfl
  · trivial
  · exact hraw rfl

/-- Siblings put out what their tokens put out. -/
theorem Parser.Parses.areEscaping {ok : String → Prop} {ts left : List Token} {ns : List Node}
    (h : Parses ts ns left) (hts : ∀ t ∈ ts, t.IsEscaping ok) : AreEscaping ok ns := by
  induction h with
  | nil => trivial
  | leaf ht _ ih =>
      obtain ⟨ht', hrest⟩ := List.forall_mem_cons.1 hts
      exact ⟨Token.isEscaping_of_leaf ht ht', ih hrest⟩
  | block _ hinner _ _ ihinner ih =>
      have hrest := (List.forall_mem_cons.1 hts).2
      -- what follows the closer is among the tokens behind the opener
      obtain ⟨front, rfl, -⟩ := hinner.exists_front
      have hafter := (List.forall_mem_cons.1 (List.forall_mem_append.1 hrest).2).2
      exact ⟨Node.isEscaping_block (ihinner hrest) _ _, ih hafter⟩
  | closer => trivial

/-- The tree of tokens puts out what the tokens put out. -/
theorem Tree.areEscaping_of_ofTokens {ok : String → Prop} {ts : List Token} {t : Tree}
    (h : Tree.ofTokens ts = .ok t) (hts : ∀ t ∈ ts, t.IsEscaping ok) :
    AreEscaping ok t.children := by
  rw [Tree.ofTokens_eq_parse, Except.bind_eq_ok_iff] at h
  obtain ⟨⟨ns, left⟩, hparse, ht⟩ := h
  cases left with
  | nil =>
      cases ht
      exact (Parser.parses_of_parse ts hparse).areEscaping hts
  | cons c after => cases ht

end Curly
