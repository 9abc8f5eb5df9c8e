import Curly.Proofs.Program.Concatenation
import Curly.Proofs.Term.Chain

/-!
Templates of one marker. What such a template makes of data is told by the value of its one term, if
a line has room for the brackets of its code; without room the template has no program.
-/

namespace Curly

open Lexer

/-- What a marker makes of a value: its text, escaped unless the marker is raw. -/
def Value.shown (raw : Bool) (v : Value) : Except Fault String :=
  if raw then v.stringify else v.escaped

/-- The piece of output that a marker becomes. -/
def Piece.ofMarker (raw : Bool) (t : Term) : Piece := if raw then .plain t else .escaped t

/-- The program of a template of one marker. -/
def Program.ofMarker (raw : Bool) (t : Term) : Program := ⟨[.emit [.ofMarker raw t]]⟩

variable {raw : Bool} {t : Term} {context v : Value} {depth : Nat}

/-! ## Running -/

namespace Program

/-- A program that puts out one piece makes the text of the piece. -/
theorem run_emit {p : Program} {q : Piece} (hbody : p.body = [.emit [q]]) {r : Except Fault String}
    (hq : Eval.Reads (start context) (Eval.expr hooks p.env q.expr) (r.map .str)) :
    p.run context = r := by
  have hstart : (start context).HasOutput := by
    intro x hx
    simp only [outputVariables, List.mem_cons, List.not_mem_nil, or_false] at hx
    obtain rfl | rfl | rfl := hx <;> rfl
  -- one piece is put out by one call of the method that appends
  have hexec : execAll hooks p.env p.body (start context) = (do
      let v ← Eval.expr hooks p.env q.expr
      Eval.gather v) (start context) := by
    have hemit : exec hooks p.env (.emit [q]) (start context) = (do
        forM (← Eval.pieces hooks p.env [q]) Eval.gather) (start context) :=
      Eval.exec_emit hstart [q]
    rw [hbody, execAll, execAll, bind_pure_unit, hemit, Eval.pieces]
    simp
  have hrun : p.run context = (do
      let r ← (do execAll hooks p.env p.body; result hooks p.env : Eval String) (start context)
      return r.1) := rfl
  cases r with
  | error f =>
      have hfailed : Eval.expr hooks p.env q.expr (start context) = .error f := hq
      rw [Eval.bind_of_error hfailed] at hexec
      rw [hrun, Eval.bind_of_error hexec]
      rfl
  | ok s =>
      have hvalue : Eval.expr hooks p.env q.expr (start context) = .ok (.str s, start context) := hq
      rw [Eval.bind_of_ok hvalue] at hexec
      have hgathered : execAll hooks p.env p.body (start context) =
          .ok ((), Meaning.start.inside ((contextName, context) :: outputVariables) [.str s]) :=
        hexec
      -- the machine holds this one text, and the result joins it with nothing
      have hresult := @result_inside p [] Meaning.start ((contextName, context) :: outputVariables)
        ⟨by decide, rfl, fun id it h => by simp [Meaning.start] at h⟩ rfl [s]
      rw [hrun, Eval.bind_of_ok hgathered]
      show (do
        let r ← result hooks p.env (Meaning.start.inside _ [.str s])
        return r.1) = _
      have hjoin : String.join [s] = s := by simp [String.join]
      rw [show [Value.str s] = [s].reverse.map .str from rfl, hresult, hjoin]
      rfl

theorem hasOwnNames_ofMarker (h : t.expr.assigned = []) : (ofMarker raw t).HasOwnNames := by
  have hassigned : (ofMarker raw t).assigned = [] := by
    cases raw with
    | true => simp [ofMarker, Piece.ofMarker, assigned, assignedOfStmts, Stmt.assigned,
        Generation.assigned_plain, h]
    | false => simp [ofMarker, Piece.ofMarker, assigned, assignedOfStmts, Stmt.assigned,
        Generation.assigned_escaped, h]
  refine ⟨fun id hid => ?_, fun id hid => ?_⟩
  · simp [ofMarker, boundOfStmts, Stmt.bound] at hid
  · rw [hassigned] at hid
    exact absurd hid List.not_mem_nil

/-- The value of the piece that a marker becomes. -/
theorem expr_ofMarker {p : Program} (hp : p.HasOwnNames) (ht : t.expr.isStarred = false) :
    Eval.expr hooks p.env (Piece.ofMarker raw t).expr = (do
      let v ← Eval.expr hooks p.env t.expr
      Eval.ofExcept (.str <$> v.shown raw)) := by
  cases raw with
  | true => exact Eval.expr_plain hp ht
  | false => exact Eval.expr_escaped hp ht

/-- A program of one marker makes the text of the value that its term shows. -/
theorem run_ofMarker (h : t.Shows context v depth) :
    (ofMarker raw t).run context = v.shown raw := by
  have hown : (ofMarker raw t).HasOwnNames := hasOwnNames_ofMarker h.assigned
  have hterm : Eval.Reads (start context) (Eval.expr hooks (ofMarker raw t).env t.expr) (.ok v) :=
    h.reads hown rfl
  refine run_emit (p := ofMarker raw t) rfl ?_
  rw [expr_ofMarker hown h.isStarred]
  exact hterm.bind fun v => .ofExcept _ _

/-- A program of one marker can run if the brackets of its term leave room for three more. -/
theorem isValid_ofMarker (h : t.Shows context v depth) (hdepth : depth + 2 ≤ Lexeme.bracketLimit) :
    (ofMarker raw t).isValid = true := by
  have hpiece : Lexeme.Passes (depth + 1) (Piece.ofMarker raw t).code := by
    cases raw with
    | true => exact Lexeme.passes_call (isPlainWord_helper .stringify) (by simpa using h.passes)
    | false => exact Lexeme.passes_call (isPlainWord_helper .escape) (by simpa using h.passes)
  -- Two brackets more are around the code: that of the helper, and that of the output.
  have hline : (ListingStep.line (Stmt.emitCode [Piece.ofMarker raw t])).isWhole = true :=
    isWhole_call (by decide) (List.forall_mem_singleton.2 hpiece) hdepth
  have hterm : (Piece.ofMarker raw t).isValid = true := by
    cases raw with
    | true => exact h.isValid
    | false => exact h.isValid
  rw [isValid, Bool.and_eq_true]
  refine ⟨?_, isWhole_steps ?_⟩
  · simp [ofMarker, Stmt.areValid, Stmt.isValid, hterm, indentLimit]
  · simpa [ofMarker, Stmt.stepsOfAll, Stmt.steps] using hline

/-- It cannot run without room for two more. -/
theorem isValid_ofMarker_of_needs (h : Lexeme.Needs depth t.code)
    (hdepth : Lexeme.bracketLimit < depth + 2) : (ofMarker raw t).isValid = false := by
  have hpiece : Lexeme.Needs (depth + 1) (Piece.ofMarker raw t).code := by
    cases raw with
    | true => exact Lexeme.needs_call (isPlainWord_helper .stringify) h []
    | false => exact Lexeme.needs_call (isPlainWord_helper .escape) h []
  have hline : (ListingStep.line (Stmt.emitCode [Piece.ofMarker raw t])).isWhole = false :=
    isWhole_call_of_needs (by decide) hpiece hdepth []
  have hmem : ListingStep.line (Stmt.emitCode [Piece.ofMarker raw t]) ∈ (ofMarker raw t).steps := by
    simp [steps, ofMarker, Stmt.stepsOfAll, Stmt.steps]
  rw [isValid, Bool.and_eq_false_iff, List.all_eq_false]
  exact .inr ⟨_, hmem, by simp [hline]⟩

end Program

/-! ## From the text of the template -/

/-- A content that stands in a marker as it is, raw or not, and is no directive. -/
structure Lexer.IsContent (content : List Char) : Prop where
  isMarker : ∀ raw, IsMarker raw content
  strip_eq : Text.strip content = content
  stands : Stands content .variable content

theorem Lexer.isContent_of_not_mem {content : List Char} (hclose : '\x7d' ∉ content)
    (hhead : ∀ c ∈ content.head?, c ∉ ['\x7b', '#', '/'])
    (hstrip : Text.strip content = content) : IsContent content where
  isMarker raw := by
    have hfirst {pat : List Char} (hpat : ∀ d ∈ pat, d = '\x7d') (hne : pat ≠ []) :
        Text.IsFirstAfter pat content := Text.isFirstAfter_of_not_mem hclose hpat hne
    cases raw with
    | true => exact hfirst (by simp [rawClosing]) (by decide)
    | false => exact ⟨fun h => hhead _ h (by decide), hfirst (by simp [closing]) (by decide)⟩
  strip_eq := hstrip
  stands := by
    refine .variable (fun kind hkind => ?_) fun h => hhead _ h (by decide)
    have hopening : content.head? = some '#' := by
      obtain rfl | ⟨rest, rfl⟩ := hkind <;> rfl
    exact hhead _ hopening (by decide)

/-- The node that a marker becomes. -/
def Node.ofMarker (raw : Bool) (expression : String) : Node :=
  if raw then .raw expression else .variable expression

theorem Tree.ofTemplate_marker {content : List Char} (h : IsContent content) :
    ofTemplate (String.ofList (markerText raw content)) =
      .ok ⟨[.ofMarker raw (String.ofList content)]⟩ := by
  have htoken : token raw content .start =
      .ok ⟨if raw then .raw else .variable, String.ofList content, .start⟩ := by
    cases raw with
    | true => simp [token, h.strip_eq]
    | false => exact token_of_stands (h.strip_eq.symm ▸ h.stands) .start
  -- behind the marker there is nothing, so the scan ends with its token
  have hend (p : Place) : scan p [] = .ok [] := scan_of_no_opening (by decide) p
  have hscan := scan_marker (h.isMarker raw) .start []
  rw [List.append_nil, htoken, hend] at hscan
  have htokens : tokenize (String.ofList (markerText raw content)) =
      .ok [⟨if raw then .raw else .variable, String.ofList content, .start⟩] := by
    rw [tokenize, String.toList_ofList, hscan]
    rfl
  refine ofTemplate_eq_ok_iff.2 ⟨_, htokens, ofTokens_eq_ok_iff.2 ?_⟩
  cases raw with
  | true => exact ⟨⟨trivial, trivial⟩, rfl⟩
  | false => exact ⟨⟨trivial, trivial⟩, rfl⟩

/-- A template of one marker becomes a program of one marker, if this can run. -/
theorem Program.ofTemplate_marker {content : List Char} (h : IsContent content)
    (hread : Term.readAccess [] content = .ok t) {p : Program} :
    ofTemplate (String.ofList (markerText raw content)) = .ok p ↔
      p = ofMarker raw t ∧ p.isValid = true := by
  rw [← @String.toList_ofList content] at hread
  -- both kinds of marker generate one piece, and leave the counter of the loops as it was
  have hnode : ∃ front, Generation.node [] (.ofMarker raw (String.ofList content)) {} =
      .ok (front, {}) ∧ front [] = [.emit [.ofMarker raw t]] := by
    cases raw with
    | true => exact ⟨_, Generation.node_raw_eq_ok.2 ⟨t, hread, rfl⟩, rfl⟩
    | false => exact ⟨_, Generation.node_variable_eq_ok.2 ⟨t, hread, rfl⟩, rfl⟩
  obtain ⟨front, hnode, hfront⟩ := hnode
  have htree : ofTree ⟨[.ofMarker raw (String.ofList content)]⟩ = .ok (ofMarker raw t) :=
    ofTree_eq_ok_iff.2 ⟨{}, Generation.nodes_cons_eq_ok.2
      ⟨front, {}, hnode, [], {}, rfl, by rw [hfront]; rfl⟩⟩
  rw [ofTemplate_eq_ok_iff]
  constructor
  · rintro ⟨tree, ht, hp, hvalid⟩
    rw [Tree.ofTemplate_marker h] at ht
    cases ht
    rw [htree] at hp
    cases hp
    exact ⟨rfl, hvalid⟩
  · rintro ⟨rfl, hvalid⟩
    exact ⟨_, Tree.ofTemplate_marker h, htree, hvalid⟩

/-- What a template of one marker makes of data. -/
theorem render_marker {content : List Char} {entries : List (Value × Value)} (h : IsContent content)
    (hread : Term.readAccess [] content = .ok t) (ht : t.Shows (.dict entries) v depth)
    (hdepth : depth + 2 ≤ Lexeme.bracketLimit) :
    render (String.ofList (markerText raw content)) (.dict entries) =
      ((v.shown raw).mapError .failed).mapError .render := by
  have hp : Program.ofTemplate (String.ofList (markerText raw content)) =
      .ok (.ofMarker raw t) :=
    (Program.ofTemplate_marker h hread).2 ⟨rfl, Program.isValid_ofMarker ht hdepth⟩
  rw [render_of_ofTemplate hp, Program.render, Program.run_ofMarker ht]

/-- A template of one marker is not rendered where there is no room for the brackets. -/
theorem render_marker_of_needs {content : List Char} (h : IsContent content)
    (hread : Term.readAccess [] content = .ok t) (ht : Lexeme.Needs depth t.code)
    (hdepth : Lexeme.bracketLimit < depth + 2) (data : Value) (text : String) :
    render (String.ofList (markerText raw content)) data ≠ .ok text := by
  intro hrender
  obtain ⟨p, hp, -⟩ := Except.bind_eq_ok_iff.1 hrender
  obtain ⟨rfl, hvalid⟩ := (Program.ofTemplate_marker h hread).1 (Except.mapError_eq_ok_iff.1 hp)
  exact absurd hvalid (by simp [Program.isValid_ofMarker_of_needs ht hdepth])

end Curly
