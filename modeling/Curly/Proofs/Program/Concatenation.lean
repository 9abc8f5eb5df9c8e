import Curly.Proofs.Program.Totality
import Curly.Proofs.Token.Concatenation
import Curly.Proofs.Tree.Concatenation

/-!
Templates put together. The tree of the whole is that of its parts, with one text at the seam; its
loops get other names, but of simple terms neither whether they can be read nor what they say
depends on them. So if both parts have programs the whole has one, which says what they say, one
after the other.
-/

namespace Curly

open Lexer Segment

/-! ## Nodes put together -/

namespace NodesJoin

variable {ms ns r : List Node}

theorem nodesRead (h : NodesJoin ms ns r) {P : Term → Prop} {inLoop : Bool}
    (hms : nodesRead P inLoop ms) (hns : nodesRead P inLoop ns) : nodesRead P inLoop r := by
  cases h with
  | append => exact nodesRead_append.2 ⟨hms, hns⟩
  | text ms s t ns => exact nodesRead_append.2 ⟨(nodesRead_append.1 hms).1, trivial, hns.2⟩

theorem nodesFit (h : NodesJoin ms ns r) {level loops : Nat} (hms : nodesFit level loops ms)
    (hns : nodesFit level loops ns) : nodesFit level loops r := by
  cases h with
  | append => exact nodesFit_append.2 ⟨hms, hns⟩
  | text ms s t ns => exact nodesFit_append.2 ⟨(nodesFit_append.1 hms).1, hns⟩

/-- Nodes put together say what the first ones say, and then what the others say. -/
theorem join_texts (h : NodesJoin ms ns r) (inLoop : Bool) (data item : Value) :
    String.join <$> textsOfNodes inLoop data item r = (do
      let s ← String.join <$> textsOfNodes inLoop data item ms
      let t ← String.join <$> textsOfNodes inLoop data item ns
      return s ++ t) := by
  cases h with
  | append =>
      rw [textsOfNodes_append]
      simp only [map_eq_pure_bind, bind_assoc, pure_bind, String.join_append]
  -- Two texts that meet say one after the other what the text that they make says.
  | text ms s t ns =>
      have htext (u : String) : Node.texts inLoop data item (.text u) = pure [u] := by
        rw [Node.texts]
        rfl
      simp only [textsOfNodes_append, textsOfNodes, htext, map_eq_pure_bind, bind_assoc, pure_bind,
        String.join_append, String.join_cons, String.join_nil, List.append_nil, String.append_empty,
        String.append_assoc]

end NodesJoin

/-! ## Templates put together -/

/-- Tokens behind another text have the same tree. -/
theorem Tree.ofTokens_behind {us : List Token} {t : Tree} (h : ofTokens us = .ok t)
    (a b : List Char) : ofTokens (us.map (Token.behind a b)) = .ok t := by
  obtain ⟨hknown, hflat⟩ := ofTokens_eq_ok_iff.1 h
  refine ofTokens_eq_ok_iff.2 ⟨hknown, ?_⟩
  rw [hflat, List.map_map]
  rfl

/-- The tree of templates put together is that of the first one with that of the other. -/
theorem Tree.exists_ofTemplate_append {a b : String} {s t : Tree} (ha : ofTemplate a = .ok s)
    (hb : ofTemplate b = .ok t) (hseam : ¬BracesMeet a.toList b.toList) :
    ∃ r, ofTemplate (a ++ b) = .ok r ∧ NodesJoin s.children t.children r.children := by
  obtain ⟨ts, hts, hs⟩ := ofTemplate_eq_ok_iff.1 ha
  obtain ⟨us, hus, ht⟩ := ofTemplate_eq_ok_iff.1 hb
  obtain ⟨r, hr, hjoin⟩ :=
    exists_ofTokens_joinTokens hs (ofTokens_behind ht a.toList b.toList)
  refine ⟨r, ofTemplate_eq_ok_iff.2 ⟨_, ?_, hr⟩, hjoin⟩
  -- the first template is segments in a row, and the lexer goes on behind them
  obtain ⟨ls, hrow, hls, rfl⟩ := scan_eq_ok_iff.1 hts
  rw [← hls] at hseam ⊢
  have hscan : scan .start b.toList = .ok us := hus
  rw [tokenize, String.toList_append, ← hls, scan_join_append ls hrow _ hseam, scan_behind, hscan]
  rfl

variable {p q r : Program}

/-- A program that says what two programs say is rendered as they are. -/
theorem Program.render_of_run
    (h : ∀ v, r.run v = (do
      let s ← p.run v
      let t ← q.run v
      return s ++ t)) (context : Value) :
    r.render context = (do
      let s ← p.render context
      let t ← q.render context
      return s ++ t) := by
  have hmap (v : Value) : (r.run v).mapError RenderFailure.failed = (do
      let s ← (p.run v).mapError RenderFailure.failed
      let t ← (q.run v).mapError RenderFailure.failed
      return s ++ t) := by
    rw [h]
    simp only [Except.mapError_bind]
    rfl
  -- no data are an empty dictionary, and other data than a dictionary are refused by all three
  cases context with
  | none => exact hmap emptyContext
  | dict entries => exact hmap (.dict entries)
  | _ => rfl

/-- A template that has a program is rendered by it. -/
theorem render_of_ofTemplate {template : String} (hp : Program.ofTemplate template = .ok p)
    (context : Value) : render template context = (p.render context).mapError .render := by
  rw [render, hp]
  rfl

/-- **Rendering is compositional.** If two templates compile, all of whose expressions are the item
at hand, a path, or a comparison of such, of strings and of numbers, and no two braces meet where
they are put together, then the whole compiles, and makes of any data what the first one makes of
them and then what the second one does, or fails as they do. -/
theorem render_append {a b : String} (ha : Program.ofTemplate a = .ok p)
    (hb : Program.ofTemplate b = .ok q) (hp : ∀ u ∈ p.terms, u.isSimple = true)
    (hq : ∀ u ∈ q.terms, u.isSimple = true) (hseam : ¬BracesMeet a.toList b.toList) :
    ∃ r, Program.ofTemplate (a ++ b) = .ok r ∧ ∀ context, render (a ++ b) context = (do
      let s ← render a context
      let t ← render b context
      return s ++ t) := by
  obtain ⟨s, hs, hps, hpvalid⟩ := Program.ofTemplate_eq_ok_iff.1 ha
  obtain ⟨t, ht, hqt, hqvalid⟩ := Program.ofTemplate_eq_ok_iff.1 hb
  obtain ⟨w, hw, hjoin⟩ := Tree.exists_ofTemplate_append hs ht hseam
  obtain ⟨r, hr, hrsimple, hrplain⟩ := Program.exists_ofTree Term.isStable_isSimple
    (hjoin.nodesRead (Program.nodesRead_of_ofTree Term.isStable_isSimple hps hp)
      (Program.nodesRead_of_ofTree Term.isStable_isSimple hqt hq))
  -- the whole is nested no deeper than its parts
  have hpplain := Program.stmtsArePlain_of_isSimple hps hp
  have hqplain := Program.stmtsArePlain_of_isSimple hqt hq
  have hpfit := (Program.isValid_iff_nodesFit hps hpplain).1 hpvalid
  have hqfit := (Program.isValid_iff_nodesFit hqt hqplain).1 hqvalid
  have hrvalid := (Program.isValid_iff_nodesFit hr hrplain).2 (hjoin.nodesFit hpfit hqfit)
  have hc : Program.ofTemplate (a ++ b) = .ok r :=
    Program.ofTemplate_eq_ok_iff.2 ⟨w, hw, hr, hrvalid⟩
  have hrun (v : Value) : r.run v = (do
      let s ← p.run v
      let t ← q.run v
      return s ++ t) := by
    rw [Program.run_of_isSimple hr hrsimple, Program.run_of_isSimple hps hp,
      Program.run_of_isSimple hqt hq]
    exact hjoin.join_texts false v v
  refine ⟨r, hc, fun context => ?_⟩
  rw [render_of_ofTemplate hc, render_of_ofTemplate ha, render_of_ofTemplate hb,
    Program.render_of_run hrun]
  simp only [Except.mapError_bind]
  rfl

/-- A loop on either side of a text that goes over the seam. -/
theorem render_append_loops :
    ∃ r, Program.ofTemplate
        ("\x7b\x7b#each x\x7d\x7d\x7b\x7bthis\x7d\x7d\x7b\x7b/each\x7d\x7d<" ++
          ">\x7b\x7b#each y\x7d\x7d-\x7b\x7b/each\x7d\x7d") = .ok r ∧
      ∀ context, render
        ("\x7b\x7b#each x\x7d\x7d\x7b\x7bthis\x7d\x7d\x7b\x7b/each\x7d\x7d<" ++
          ">\x7b\x7b#each y\x7d\x7d-\x7b\x7b/each\x7d\x7d") context = (do
        let s ← render
          "\x7b\x7b#each x\x7d\x7d\x7b\x7bthis\x7d\x7d\x7b\x7b/each\x7d\x7d<" context
        let t ← render
          ">\x7b\x7b#each y\x7d\x7d-\x7b\x7b/each\x7d\x7d" context
        return s ++ t) := by
  have hfirst : ((Program.ofTemplate
      "\x7b\x7b#each x\x7d\x7d\x7b\x7bthis\x7d\x7d\x7b\x7b/each\x7d\x7d<").toOption.map
        fun p => p.terms.all Term.isSimple) = some true := by
    decide +kernel
  have hsecond : ((Program.ofTemplate
      ">\x7b\x7b#each y\x7d\x7d-\x7b\x7b/each\x7d\x7d").toOption.map
        fun p => p.terms.all Term.isSimple) = some true := by
    decide +kernel
  obtain ⟨p, hp, hpterms⟩ := Option.map_eq_some_iff.1 hfirst
  obtain ⟨q, hq, hqterms⟩ := Option.map_eq_some_iff.1 hsecond
  -- the braces that would meet at the seam are kept apart by the text on both sides
  exact render_append (Except.eq_ok_of_toOption hp) (Except.eq_ok_of_toOption hq)
    (List.all_eq_true.1 hpterms) (List.all_eq_true.1 hqterms) (by simp [BracesMeet])

end Curly
