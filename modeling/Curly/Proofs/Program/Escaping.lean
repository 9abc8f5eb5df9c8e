import Curly.Proofs.Except
import Curly.Proofs.Program.Correctness
import Curly.Proofs.Tree.Parser
import Curly.Proofs.Value.Text
import Curly.Rendering

/-!
Escaping from a template to its output. What a tree says is put together from the texts of its
tokens and from values that were escaped one by one, whatever the data and however deep the blocks;
and a program says what its tree says. So nothing that means something in HTML gets from the data
into the output.
-/

namespace Curly

/-- Texts, each of which has a property or was escaped. -/
def AreEscapedOr (ok : String → Prop) (texts : List String) : Prop :=
  ∀ s ∈ texts, ok s ∨ IsEscaped s.toList

variable {ok : String → Prop}

theorem isEscaped_of_escaped {v : Value} {s : String} (h : v.escaped = .ok s) :
    IsEscaped s.toList := by
  rw [Value.escaped] at h
  cases hs : v.stringify with
  | error f =>
      rw [hs] at h
      cases h
  | ok t =>
      rw [hs] at h
      have heq : String.ofList (escapeHtml t.toList) = s := Except.ok.inj h
      rw [← heq, String.toList_ofList]
      exact isEscaped_escapeHtml t.toList

theorem AreEscapedOr.nil : AreEscapedOr ok [] := fun _ hs => absurd hs List.not_mem_nil

theorem AreEscapedOr.append {texts texts' : List String} (h : AreEscapedOr ok texts)
    (h' : AreEscapedOr ok texts') : AreEscapedOr ok (texts ++ texts') := by
  intro s hs
  obtain hs | hs := List.mem_append.1 hs
  · exact h s hs
  · exact h' s hs

namespace Meaning

open Generation (pure_eq_ok)

mutual

/-- All that an escaping node says was escaped or is a text of a token. -/
theorem escapes_of_node {h : Hooks} {env : Env} {scope : Scope} {c c₁ : LoopCounter}
    {meaning : Frame → Eval (List String)} : (n : Node) →
    node h env scope n c = .ok (meaning, c₁) → n.IsEscaping ok →
    ∀ L, Eval.Yields (meaning L) (AreEscapedOr ok)
  | .text text, hn, hok, L => by
      rw [node, pure_eq_ok] at hn
      cases hn
      refine Eval.Yields.pure fun s hs => .inl ?_
      rw [List.mem_singleton] at hs
      exact hs ▸ hok
  | .variable expression, hn, _, L => by
      obtain ⟨t, -, hr⟩ := node_variable_eq_ok.1 hn
      cases hr
      refine Eval.Yields.bind fun v => Eval.Yields.bind_of_yields
        (Eval.Yields.ofExcept fun s hs => isEscaped_of_escaped hs) fun s hs => ?_
      refine Eval.Yields.pure fun s' hs' => .inr ?_
      rw [List.mem_singleton] at hs'
      exact hs' ▸ hs
  | .raw expression, _, hok, _ => absurd hok id
  | .cond condition children, hn, hok, L => by
      obtain ⟨t, -, body, c₃, hbody, hr⟩ := node_cond_eq_ok.1 hn
      cases hr
      refine Eval.Yields.bind fun v => ?_
      split
      · exact escapes_of_nodes children hbody hok L
      · exact Eval.Yields.pure .nil
  | .each items children, hn, hok, L => by
      obtain ⟨t, -, body, c₃, hbody, hr⟩ := node_each_eq_ok.1 hn
      cases hr
      -- every round says what the children say, from a frame of its own, so the frame is left open
      have hrounds := escapes_of_nodes children hbody hok
      refine Eval.Yields.bind fun v => ?_
      split
      · exact Eval.Yields.pure .nil
      · refine Eval.Yields.bind_of_yields (Eval.Yields.mapM (fun x => hrounds _) _)
          fun rounds hr => ?_
        refine Eval.Yields.pure fun s hs => ?_
        obtain ⟨texts, htexts, hs⟩ := List.mem_flatten.1 hs
        exact hr texts htexts s hs
  | .foreign typeName, hn, _, _ => by
      rw [node] at hn
      cases hn

theorem escapes_of_nodes {h : Hooks} {env : Env} {scope : Scope} {c c₁ : LoopCounter}
    {meaning : Frame → Eval (List String)} : (ns : List Node) →
    nodes h env scope ns c = .ok (meaning, c₁) → AreEscaping ok ns →
    ∀ L, Eval.Yields (meaning L) (AreEscapedOr ok)
  | [], hns, _, L => by
      rw [nodes, pure_eq_ok] at hns
      cases hns
      exact Eval.Yields.pure .nil
  | n :: ns, hns, hok, L => by
      obtain ⟨first, c₂, hn, rest, c₃, hrest, hr⟩ := nodes_cons_eq_ok.1 hns
      cases hr
      exact Eval.Yields.bind_of_yields (escapes_of_node n hn hok.1 L) fun texts htexts =>
        Eval.Yields.bind_of_yields (escapes_of_nodes ns hrest hok.2 L) fun texts' htexts' =>
          Eval.Yields.pure (htexts.append htexts')

end

/-- What escaping nodes say about data is a join of texts that were escaped or are texts of
tokens. -/
theorem about_isEscaped {h : Hooks} {env : Env} {ns : List Node} {c : LoopCounter}
    {meaning : Frame → Eval (List String)} (hns : nodes h env [] ns {} = .ok (meaning, c))
    (hok : AreEscaping ok ns) {context : Value} {out : String}
    (hout : about meaning context = .ok out) :
    ∃ texts, out = String.join texts ∧ AreEscapedOr ok texts := by
  rw [about, StateT.run] at hout
  cases hr : meaning [(contextName, context)] start with
  | error f =>
      rw [hr] at hout
      cases hout
  | ok r =>
      rw [hr] at hout
      cases hout
      exact ⟨r.1, rfl, escapes_of_nodes ns hns hok _ start r.1 r.2 hr⟩

end Meaning

/-- What is compiled was generated. -/
theorem Program.ofTree_of_compile {t : Tree} {p : Program} (h : Program.compile t = .ok p) :
    Program.ofTree t = .ok p := by
  rw [Program.compile] at h
  cases hp : Program.ofTree t with
  | error e =>
      rw [hp] at h
      cases h
  | ok q =>
      rw [hp] at h
      dsimp only [Bind.bind, Except.bind] at h
      split at h
      · exact h
      · cases h

/-- Rendering runs the program of the template. -/
theorem render_eq_run {template : String} {tokens : List Token} {t : Tree} {p : Program}
    (htokens : tokenize template = .ok tokens) (ht : Tree.ofTokens tokens = .ok t)
    (hp : Program.compile t = .ok p) (entries : List (Value × Value)) :
    render template (.dict entries) =
      ((p.run (.dict entries)).mapError .failed).mapError .render := by
  have htree : Tree.ofTemplate template = .ok t := by
    rw [Tree.ofTemplate, htokens]
    show (Tree.ofTokens tokens).mapError TemplateFailure.structural = _
    rw [ht]
    rfl
  have hprogram : Program.ofTemplate template = .ok p := by
    rw [Program.ofTemplate, htree]
    show (Program.compile t).mapError TemplateFailure.expression = _
    rw [hp]
    rfl
  rw [render, hprogram]
  rfl

end Curly
