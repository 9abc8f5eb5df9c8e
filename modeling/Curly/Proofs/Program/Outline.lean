import Curly.Proofs.Except
import Curly.Proofs.Outline
import Curly.Proofs.Program.Compilation
import Curly.Proofs.Program.Emission
import Mathlib.Data.List.Forall2

/-!
The outline of a program. It has the blocks of the template: a condition for a condition, three
lines for a loop, and in each block one line of output for every run of neighbours that are output.
-/

namespace Curly

/-! ## The outline of a program -/

mutual

/-- The outline of a statement. -/
def Stmt.outline : Stmt → Outline
  | .emit pieces => .line (Stmt.emitCode pieces) []
  | .branch condition body => .line (Stmt.branchLine condition) (outlinesOf body)
  | .bind name value => .line (Stmt.bindLine name value) []
  | .guard items body => .line (Stmt.guardLine items) (outlinesOf body)
  | .loop names body => .line (Stmt.loopLine names) (outlinesOf body)
  | .pass => .line Stmt.passLine []

/-- The outlines of statements. -/
def outlinesOf : List Stmt → List Outline
  | [] => []
  | s :: ss => s.outline :: outlinesOf ss

end

/-- The outline of a program. -/
def Program.outline (p : Program) : Outline :=
  .line headLine (outputLines.map (.line · []) ++ outlinesOf p.body ++ [.line returnLine []])

open Outline

/-- Steps that add the lines of outlines and leave the level as it was. -/
def Lists (steps : List ListingStep) (os : List Outline) : Prop :=
  (∀ level rest, Listing.lines level (steps ++ rest) =
    linesOfAll level os ++ Listing.lines level rest) ∧
  ∀ l : Listing, (l.run steps).level = l.level

namespace Lists

theorem nil : Lists [] [] := ⟨fun _ _ => rfl, fun _ => rfl⟩

theorem line (text : String) : Lists [.line text] [.line text []] :=
  ⟨fun _ _ => rfl, fun _ => rfl⟩

theorem append {steps steps' : List ListingStep} {os os' : List Outline} (h : Lists steps os)
    (h' : Lists steps' os') : Lists (steps ++ steps') (os ++ os') := by
  constructor
  · intro level rest
    rw [List.append_assoc, h.1, h'.1, linesOfAll_append, List.append_assoc]
  · intro l
    rw [Listing.run, List.foldl_append]
    exact (h'.2 _).trans (h.2 l)

/-- A block is a line and lines one level deeper. -/
theorem block (text : String) {steps : List ListingStep} {os : List Outline}
    (h : Lists steps os) :
    Lists (.line text :: .indent :: steps ++ [.dedent]) [.line text os] := by
  constructor
  · -- The lines, from any level on and in front of any rest.
    intro level rest
    have hinner := h.1 (level + Listing.width) (.dedent :: rest)
    simp only [List.cons_append, List.append_assoc, List.nil_append, Listing.lines, hinner,
      Int.add_sub_cancel, linesOfAll, lines, List.append_nil]
  · -- The level behind them: what the indentation adds is taken off again.
    intro l
    have hinner := h.2 ((l.step (.line text)).step .indent)
    show ((l.run (.line text :: .indent :: steps ++ [.dedent])).level) = l.level
    rw [Listing.run, List.foldl_append]
    show ((((l.step (.line text)).step .indent).run steps).level - Listing.width) = l.level
    rw [hinner]
    exact Int.add_sub_cancel _ _

end Lists

mutual

/-- The steps of a statement add the lines of its outline. -/
theorem Stmt.lists : (s : Stmt) → Lists s.steps [s.outline]
  | .emit _ | .bind .. | .pass => .line _
  | .branch _ body | .guard _ body | .loop _ body => .block _ (lists_stepsOfAll body)

theorem lists_stepsOfAll : (ss : List Stmt) → Lists (Stmt.stepsOfAll ss) (outlinesOf ss)
  | [] => .nil
  | s :: ss => (Stmt.lists s).append (lists_stepsOfAll ss)

end

/-- The steps of a program add the lines of its outline. -/
theorem Program.lists (p : Program) : Lists p.steps [p.outline] := by
  have hlines : Lists (outputLines.map .line) (outputLines.map (.line · [])) :=
    (Lists.line _).append ((Lists.line _).append (.line _))
  have hbody := (hlines.append (lists_stepsOfAll p.body)).append (.line returnLine)
  have hblock := Lists.block headLine hbody
  rw [List.cons_append, List.cons_append, List.append_assoc] at hblock
  exact hblock

/-! ## The outline against the template -/

/-- Whether a node is a piece of output. -/
def Node.isOutput : Node → Bool
  | .text _ | .variable _ | .raw _ => true
  | .cond .. | .each .. | .foreign _ => false

/-- What a node puts out. -/
inductive Node.PutsOut (scope : Scope) : Node → Piece → Prop
  | text (value : String) : PutsOut scope (.text value) (.text value)
  | variable {expression : String} {t : Term}
      (ht : Term.readAccess scope expression.toList = .ok t) :
      PutsOut scope (.variable expression) (.escaped t)
  | raw {expression : String} {t : Term}
      (ht : Term.readAccess scope expression.toList = .ok t) :
      PutsOut scope (.raw expression) (.plain t)

/-- Nodes that do not begin with a piece of output. -/
def BeginsNoOutput (ns : List Node) : Prop := ∀ n ∈ ns.head?, n.isOutput = false

/-- Statements that have the blocks of nodes: one statement of output for each run of pieces of
output, with these pieces in order; one condition for a condition; and for a loop its items bound
to a name, the guard, and the loop in it. The nodes of a block are in the block, and an empty block
passes. -/
inductive Lays : Scope → LoopCounter → List Node → List Stmt → Prop
  | nil {scope c} : Lays scope c [] []
  | output {scope c ms ps rest ss} (hne : ms ≠ []) (hms : List.Forall₂ (Node.PutsOut scope) ms ps)
      (hrest : BeginsNoOutput rest) (h : Lays scope c rest ss) :
      Lays scope c (ms ++ rest) (.emit ps :: ss)
  | cond {scope c condition children t body rest ss}
      (ht : Term.readCondition scope condition.toList = .ok t)
      (hbody : Lays scope c children body) (h : Lays scope (c.after (loopsOf children)) rest ss) :
      Lays scope c (.cond condition children :: rest) (.branch t (Generation.block body) :: ss)
  | each {scope c items children t body rest ss}
      (ht : Term.readAccess scope items.toList = .ok t)
      (hbody : Lays (c.next.1 :: scope) (c.after 1) children body)
      (h : Lays scope (c.after (loopsOf children + 1)) rest ss) :
      Lays scope c (.each items children :: rest)
        (.bind c.next.1.items t ::
          .guard c.next.1.items [.loop c.next.1 (Generation.block body)] :: ss)

namespace Lays

variable {scope : Scope} {c : LoopCounter} {ns : List Node} {ss : List Stmt}

/-- Output comes of output only. -/
theorem beginsNoOutput (h : Lays scope c ns ss) (hss : Emission.BeginsAnew ss) :
    BeginsNoOutput ns := by
  cases h with
  | nil => exact nofun
  | output => exact absurd rfl (hss _ _)
  | cond | each =>
    intro n hn
    cases hn
    rfl

/-- A piece of output in front joins the run of output behind it. -/
theorem prepend {n : Node} {q : Piece} (hq : n.PutsOut scope q) (h : Lays scope c ns ss) :
    Lays scope c (n :: ns) (Generation.prepend q ss) := by
  by_cases hss : Emission.BeginsAnew ss
  · have hprepend : Generation.prepend q ss = .emit [q] :: ss := by
      rw [Generation.prepend]
      exact hss
    rw [hprepend]
    show Lays scope c ([n] ++ ns) (.emit [q] :: ss)
    exact .output (List.cons_ne_nil _ _) (.cons hq .nil) (h.beginsNoOutput hss) h
  · -- the statements begin with output, so the first of the nodes are a run of it
    obtain ⟨ps, ss, rfl⟩ : ∃ ps rest, ss = .emit ps :: rest := by
      simpa [Emission.BeginsAnew] using hss
    cases h with
    | @output _ _ ms ps rest ss hne hms hrest h =>
      show Lays scope c ((n :: ms) ++ rest) (.emit (q :: ps) :: ss)
      exact .output (List.cons_ne_nil _ _) (.cons hq hms) hrest h

end Lays

namespace Generation

mutual

/-- What is generated from a node has its blocks. -/
theorem lays_node {scope : Scope} {c c₁ : LoopCounter} {front : List Stmt → List Stmt} :
    (n : Node) → node scope n c = .ok (front, c₁) → c₁ = c.after n.loops ∧
      ∀ ns ss, Lays scope c₁ ns ss → Lays scope c (n :: ns) (front ss)
  | .text value, h => by
      rw [node, pure_eq_ok] at h
      cases h
      exact ⟨rfl, fun ns ss hss => hss.prepend (.text value)⟩
  | .variable expression, h => by
      obtain ⟨t, ht, hr⟩ := node_variable_eq_ok.1 h
      cases hr
      exact ⟨rfl, fun ns ss hss => hss.prepend (.variable ht)⟩
  | .raw expression, h => by
      obtain ⟨t, ht, hr⟩ := node_raw_eq_ok.1 h
      cases hr
      exact ⟨rfl, fun ns ss hss => hss.prepend (.raw ht)⟩
  | .cond condition children, h => by
      obtain ⟨t, ht, body, c₂, hbody, hr⟩ := node_cond_eq_ok.1 h
      cases hr
      obtain ⟨rfl, hlays⟩ := lays_nodes children hbody
      exact ⟨rfl, fun ns ss hss => .cond ht hlays hss⟩
  | .each items children, h => by
      obtain ⟨t, ht, body, c₂, hbody, hr⟩ := node_each_eq_ok.1 h
      cases hr
      obtain ⟨rfl, hlays⟩ := lays_nodes children hbody
      -- the loop is counted before the loops among its children
      have hcount : (c.after 1).after (loopsOf children) = c.after (loopsOf children + 1) := by
        rw [LoopCounter.after_after, Nat.add_comm]
      refine ⟨hcount, fun ns ss hss => .each ht hlays ?_⟩
      exact hcount ▸ hss
  | .foreign typeName, h => by
      rw [node] at h
      cases h

theorem lays_nodes {scope : Scope} {c c₁ : LoopCounter} {ss : List Stmt} :
    (ns : List Node) → nodes scope ns c = .ok (ss, c₁) →
      c₁ = c.after (loopsOf ns) ∧ Lays scope c ns ss
  | [], h => by
      rw [nodes, pure_eq_ok] at h
      cases h
      exact ⟨rfl, .nil⟩
  | n :: ns, h => by
      obtain ⟨front, c₂, hn, rest, c₃, hns, hr⟩ := nodes_cons_eq_ok.1 h
      cases hr
      obtain ⟨rfl, hfront⟩ := lays_node n hn
      obtain ⟨rfl, hrest⟩ := lays_nodes ns hns
      exact ⟨LoopCounter.after_after _ _ _, hfront ns rest hrest⟩

end

end Generation

/-! ## Lines that open blocks -/

namespace Outline

/-- A line that begins like none that open a block. -/
theorem not_opens {w rest : List Char} {text : String} (htext : text.toList = w ++ rest)
    (hw : ∀ o ∈ openers, w.head? ≠ o.toList.head?) (hne : w ≠ []) : ¬Opens text := by
  rintro ⟨o, ho, hprefix⟩
  obtain ⟨c, w, rfl⟩ := List.exists_cons_of_ne_nil hne
  rw [htext] at hprefix
  have hopener : ∃ d v, o.toList = d :: v := by
    simp only [openers, List.mem_cons, List.not_mem_nil, or_false] at ho
    obtain rfl | rfl | rfl := ho <;> exact ⟨_, _, rfl⟩
  obtain ⟨d, v, hd⟩ := hopener
  refine hw o ho ?_
  rw [hd] at hprefix ⊢
  exact congrArg some (List.cons_prefix_cons.1 hprefix).1.symm

theorem not_opens_emitCode (ps : List Piece) : ¬Opens (Stmt.emitCode ps) := by
  rw [Stmt.emitCode.eq_def]
  split
  · exact not_opens (w := appendName.toList) (by simp [Term.callCode]; rfl) (by decide) (by decide)
  · exact not_opens (w := extendName.toList) (by simp [Term.callCode]; rfl) (by decide) (by decide)

theorem opens_branchLine (t : Term) : Opens (Stmt.branchLine t) :=
  ⟨"if ", by decide, by simp [Stmt.branchLine]⟩

theorem opens_guardLine (items : String) : Opens (Stmt.guardLine items) :=
  ⟨"if ", by decide, by simp [Stmt.guardLine]⟩

theorem opens_loopLine (names : LoopNames) : Opens (Stmt.loopLine names) :=
  ⟨"for ", by decide, by simp [Stmt.loopLine]⟩

theorem not_opens_passLine : ¬Opens Stmt.passLine :=
  not_opens (w := ['p']) rfl (by decide) (by decide)

/-- The names of loops begin like no line that opens a block. -/
theorem not_opens_bindLine (n : Nat) (t : Term) :
    ¬Opens (Stmt.bindLine (LoopNames.numbered loopLead n).items t) :=
  not_opens (w := loopLead.toList) (by simp [Stmt.bindLine, LoopNames.numbered]; rfl)
    (by decide) (by decide)

/-- A block is never empty. -/
theorem areFormed_block {ss : List Stmt} (h : areFormed (outlinesOf ss)) :
    outlinesOf (Generation.block ss) ≠ [] ∧ areFormed (outlinesOf (Generation.block ss)) := by
  cases ss with
  | nil => exact ⟨List.cons_ne_nil _ _, isFormed_leaf not_opens_passLine, trivial⟩
  | cons s ss => exact ⟨List.cons_ne_nil _ _, h⟩

/-- In the outline of a template exactly the lines that open a block have lines below them. -/
theorem areFormed_of_lays {scope : Scope} {c : LoopCounter} {ns : List Node} {ss : List Stmt}
    (h : Lays scope c ns ss) (hc : c.lead = loopLead) : areFormed (outlinesOf ss) := by
  induction h with
  | nil => trivial
  | output hne hms hrest h ih => exact ⟨isFormed_leaf (not_opens_emitCode _), ih hc⟩
  | @cond scope c condition children t body rest ss ht hbody h ihbody ih =>
    obtain ⟨hne, hblock⟩ := areFormed_block (ihbody hc)
    exact ⟨isFormed_block (opens_branchLine t) hne hblock, ih hc⟩
  | @each scope c items children t body rest ss ht hbody h ihbody ih =>
    obtain ⟨hne, hblock⟩ := areFormed_block (ihbody hc)
    have hloop : (Stmt.loop c.next.1 (Generation.block body)).outline.IsFormed :=
      isFormed_block (opens_loopLine _) hne hblock
    have hbind : ¬Opens (Stmt.bindLine c.next.1.items t) := by
      have hline := not_opens_bindLine (c.opened + 1) t
      rw [← hc] at hline
      exact hline
    exact ⟨isFormed_leaf hbind,
      isFormed_block (opens_guardLine _) (List.cons_ne_nil _ _) ⟨hloop, trivial⟩, ih hc⟩

end Outline

namespace Program

theorem isFormed_outline {p : Program} {c : LoopCounter} {ns : List Node}
    (h : Lays [] c ns p.body) (hc : c.lead = loopLead) : p.outline.IsFormed := by
  -- The lines around the body are the same in every program.
  have hleaves : areFormed (outputLines.map (.line · []) : List Outline) ∧
      areFormed [.line returnLine []] := by
    have hno : ∀ text ∈ returnLine :: outputLines, ¬Opens text := by
      unfold Opens
      decide +kernel
    simp only [outputLines, List.forall_mem_cons] at hno
    obtain ⟨hreturn, hresult, happend, hextend, -⟩ := hno
    exact ⟨⟨isFormed_leaf hresult, isFormed_leaf happend, isFormed_leaf hextend, trivial⟩,
      isFormed_leaf hreturn, trivial⟩
  refine isFormed_block ⟨"def ", by decide, by decide +kernel⟩ (by simp) ?_
  rw [areFormed_append, areFormed_append]
  exact ⟨⟨hleaves.1, areFormed_of_lays h hc⟩, hleaves.2⟩

end Program

namespace Emission

variable {t : Tree} {p : Program}

/-- A pass over a template that has a program succeeds and writes the listing of the program, and
puts out all that waits. -/
theorem exists_ofTree (hp : Program.ofTree t = .ok p) :
    ∃ e, ofTree t = .ok e ∧ e.steps = p.writes ∧ e.waiting = [] := by
  have hsteps := map_steps_ofTree t
  rw [hp] at hsteps
  obtain ⟨e, he, hwrites⟩ := Except.map_eq_ok_iff.1 hsteps
  refine ⟨e, he, hwrites, ?_⟩
  obtain ⟨after, -, hafter⟩ := Except.bind_eq_ok_iff.1 he
  cases hafter
  exact waiting_flush after

/-- Pieces wait only where they are put out. -/
theorem waits_of_mem_writes (p : Program) : ∀ w ∈ p.writes,
    w.2 ≠ [] → w.1 = .line (Stmt.emitCode w.2) := by
  rw [Program.writes, List.forall_mem_append, List.forall_mem_append]
  have hstart : ∀ w ∈ start.steps, w.2 = [] := by simp [start, Program.outputLines]
  refine ⟨⟨fun w hw hne => absurd (hstart w hw) hne, waits_of_mem_writesOfAll p.body⟩, ?_⟩
  simp

/-- **The lines have the block structure of the template.** Of a template that has a program, the
pass writes the listing of the program, and no piece of output waits where the level changes or at
the end. The level ends where it began. Lines get deeper right behind a line that opens a block, by
one level, and nowhere else; and grouped by their levels they are the outline of the program, the
statements of which have the blocks of the template. -/
theorem ofTree_isNested (hp : Program.ofTree t = .ok p) :
    ∃ e, ofTree t = .ok e ∧ e.steps.map Prod.fst = p.steps ∧
      (∀ w ∈ e.steps, w.1 = .indent ∨ w.1 = .dedent → w.2 = []) ∧ e.waiting = [] ∧
      (Listing.run {} p.steps).level = 0 ∧
      p.source = String.join ((Listing.lines 0 p.steps).map fun x =>
        Listing.margin x.1 ++ x.2 ++ "\n") ∧
      Outline.Descends (Listing.lines 0 p.steps) ∧
      Outline.group (Listing.lines 0 p.steps) = [p.outline] ∧
      Lays [] {} t.children p.body := by
  obtain ⟨e, he, hwrites, hwaiting⟩ := exists_ofTree hp
  obtain ⟨c, hgen⟩ := Program.ofTree_eq_ok_iff.1 hp
  obtain ⟨-, hlays⟩ := Generation.lays_nodes t.children hgen
  -- the lines that the program lists are those of its outline
  have hlines : Listing.lines 0 p.steps = Outline.linesOfAll 0 [p.outline] := by
    have hall := p.lists.1 0 []
    rwa [List.append_nil, Listing.lines, List.append_nil] at hall
  refine ⟨e, he, ?_, ?_, hwaiting, p.lists.2 {}, ?_, ?_, ?_, hlays⟩
  · rw [hwrites, p.map_fst_writes]
  · rw [hwrites]
    rintro w hw (hlevel | hlevel)
    all_goals
      -- pieces wait only at the line that puts them out
      by_contra hne
      cases hlevel.symm.trans (waits_of_mem_writes p w hw hne)
  · exact (Listing.text_run {} p.steps).trans String.empty_append
  · rw [hlines]
    exact Outline.descends_of_areFormed 0 [p.outline] ⟨Program.isFormed_outline hlays rfl, trivial⟩
  · rw [hlines, Outline.group_linesOfAll]

/-- A condition that holds an empty loop and output, between two pieces of output. -/
theorem ofTree_isNested_loop :
    let t : Tree := ⟨[.text "a", .cond "x" [.each "ys" [], .raw "y"], .variable "z"]⟩
    ∃ p e, Program.ofTree t = .ok p ∧ ofTree t = .ok e ∧ e.steps.map Prod.fst = p.steps ∧
      (Listing.lines 0 p.steps).map Prod.fst = [0, 4, 4, 4, 4, 4, 8, 8, 12, 16, 8, 4, 4] ∧
      Outline.Descends (Listing.lines 0 p.steps) ∧
      Outline.group (Listing.lines 0 p.steps) = [p.outline] ∧ Lays [] {} t.children p.body := by
  intro t
  have hlevels : ((Program.ofTree t).toOption.map fun p =>
      (Listing.lines 0 p.steps).map Prod.fst) =
        some [0, 4, 4, 4, 4, 4, 8, 8, 12, 16, 8, 4, 4] := by
    decide +kernel
  obtain ⟨p, hp, hlevels⟩ := Option.map_eq_some_iff.1 hlevels
  have hp := Except.eq_ok_of_toOption hp
  obtain ⟨e, he, hsteps, -, -, -, -, hdescends, hgroup, hlays⟩ := ofTree_isNested hp
  exact ⟨p, e, hp, he, hsteps, hlevels, hdescends, hgroup, hlays⟩

end Emission

end Curly
