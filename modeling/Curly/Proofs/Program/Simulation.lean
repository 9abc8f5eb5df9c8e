import Curly.Proofs.Eval.Expr
import Curly.Proofs.Program.Generation
import Curly.Proofs.Program.Output

/-!
Statements that say what a tree says.

A tree is read on a machine on which no generated function runs; its program runs on the same
machine inside a generated function, whose frame holds the variables of the place that is read, and
whose output holds what has been said so far. Loops further on overwrite only names that are not
bound at the place, because every loop has names of its own, and what expressions assign is not
bound at any place; so the frame keeps what it holds. The expressions make no difference between the
two machines, as they are oblivious.

There is one lemma for each kind of node; `Curly.Proofs.Program.Correctness` puts them together.
-/

namespace Curly

/-! ## Frames -/

/-- A name that no loop after the first `c` binds. -/
def LoopNames.IsSettled (c : Nat) (id : String) : Prop :=
  ∀ n, c < n → id ∉ (LoopNames.numbered loopLead n).all

theorem LoopNames.IsSettled.mono {c c' : Nat} {id : String} (hc : c ≤ c') (h : IsSettled c id) :
    IsSettled c' id :=
  fun n hn => h n (Nat.lt_of_le_of_lt hc hn)

/-- The names of a loop are not bound by later ones. -/
theorem LoopNames.isSettled_of_mem_all {n : Nat} {id : String}
    (h : id ∈ (LoopNames.numbered loopLead n).all) : IsSettled n id := by
  intro k hk hmem
  have heq := number_eq_of_mem_all h hmem
  omega

namespace Frame

/-- A frame that holds the variables of another one, and keeps them while loops after the first `c`
run and expressions assign names of a list. -/
def Holds (free : List String) (c : Nat) (F L : Frame) : Prop :=
  ∀ id v, L.lookup id = some v →
    LoopNames.IsSettled c id ∧ id ∉ free ∧ F.lookup id = some v

/-- A frame of which all variables have one of some names. -/
def IsWithin (names : List String) (F : Frame) : Prop :=
  ∀ id v, F.lookup id = some v → id ∈ names

/-- A frame of a program that differs from another one at most in the variables of loops after the
first `c` and in what expressions assign, and has no others than it or those of the program. -/
structure Keeps (p : Program) (c : Nat) (F₁ F : Frame) : Prop where
  settled : ∀ id, LoopNames.IsSettled c id → id ∉ p.assigned → F₁.lookup id = F.lookup id
  within : F.IsWithin p.varNames → F₁.IsWithin p.varNames

/-- The frame of a program, at a place with some variables. -/
structure Fits (p : Program) (c : Nat) (F L : Frame) : Prop where
  lexical : F.Holds p.assigned c L
  output : F.Holds p.assigned c Program.outputVariables
  within : F.IsWithin p.varNames

variable {p : Program} {c c' : Nat} {F₂ F₁ F L : Frame}

theorem Keeps.refl (p : Program) (c : Nat) (F : Frame) : Keeps p c F F :=
  ⟨fun _ _ _ => rfl, id⟩

theorem Keeps.trans (h₂ : Keeps p c F₂ F₁) (h₁ : Keeps p c F₁ F) : Keeps p c F₂ F :=
  ⟨fun id hs ha => (h₂.settled id hs ha).trans (h₁.settled id hs ha),
    fun h => h₂.within (h₁.within h)⟩

theorem Keeps.mono (hc : c ≤ c') (h : Keeps p c' F₁ F) : Keeps p c F₁ F :=
  ⟨fun id hs => h.settled id (hs.mono hc), h.within⟩

/-- A frame that differs in assigned variables only keeps the others. -/
theorem Keeps.of_agrees (c : Nat) (h : F₁.Agrees p.assigned F) : Keeps p c F₁ F := by
  refine ⟨fun id _ ha => h id ha, fun hF id v hv => ?_⟩
  by_cases hid : id ∈ p.assigned
  · exact p.assigned_subset_varNames hid
  · exact hF id v ((h id hid).symm.trans hv)

theorem Holds.mono {free : List String} (hc : c ≤ c') (h : Holds free c F L) : Holds free c' F L :=
  fun id v hv => ⟨(h id v hv).1.mono hc, (h id v hv).2⟩

theorem Holds.keep (h : Holds p.assigned c F L) (hk : Keeps p c F₁ F) :
    Holds p.assigned c F₁ L := by
  intro id v hv
  obtain ⟨hs, ha, hF⟩ := h id v hv
  exact ⟨hs, ha, (hk.settled id hs ha).trans hF⟩

theorem Fits.mono (hc : c ≤ c') (h : Fits p c F L) : Fits p c' F L :=
  ⟨h.lexical.mono hc, h.output.mono hc, h.within⟩

theorem Fits.keep (h : Fits p c F L) (hk : Keeps p c F₁ F) : Fits p c F₁ L :=
  ⟨h.lexical.keep hk, h.output.keep hk, hk.within h.within⟩

/-- Setting a variable of a later loop keeps the others. -/
theorem keeps_set {n : Nat} (hn : c < n) {name : String}
    (hname : name ∈ (LoopNames.numbered loopLead n).all) (hnames : name ∈ p.varNames) (v : Value)
    (F : Frame) : Keeps p c (F.set name v) F := by
  refine ⟨fun id hid _ => ?_, fun hF id w hw => ?_⟩
  · have hne : id ≠ name := by
      rintro rfl
      exact hid n hn hname
    rw [lookup_set, if_neg hne]
  · rw [lookup_set] at hw
    by_cases hne : id = name
    · exact hne ▸ hnames
    · rw [if_neg hne] at hw
      exact hF id w hw

end Frame

/-! ## What a program has to end with -/

/-- An end of a program that shows what a tree has said: the same fault, or the texts after those
that had been put out. Nothing is asked where the tree misses a variable of the program. -/
inductive Ends (p : Program) (c : Nat) (F : Frame) (out : List Value) :
    Except Fault (List String × Machine) → Except Fault (Unit × Machine) → Prop
  | missing {f id r} (hf : f.unbound? = some id) (hid : id ∈ p.varNames) :
    Ends p c F out (.error f) r
  | error (f) : Ends p c F out (.error f) (.error f)
  | ok {texts R F₁} (hR : R.IsApart p.assigned) (hF : F₁.Keeps p c F) :
    Ends p c F out (.ok (texts, R)) (.ok ((), R.inside F₁ (texts.reverse.map .str ++ out)))

namespace Ends

open Eval (bind_of_ok bind_of_error)

variable {p : Program} {c : Nat} {F : Frame} {out : List Value} {R M : Machine}

/-- An end where nothing has been said. -/
theorem silent {F₁ : Frame} (hR : R.IsApart p.assigned) (hF : F₁.Keeps p c F) :
    Ends p c F out (.ok ([], R)) (.ok ((), R.inside F₁ out)) :=
  .ok hR hF

theorem mono {c' : Nat} {r r'} (hc : c ≤ c') (h : Ends p c' F out r r') :
    Ends p c F out r r' := by
  cases h with
  | missing hf hid => exact .missing hf hid
  | error f => exact .error f
  | ok hR hF => exact .ok hR (hF.mono hc)

/-- The frame may have been changed before. -/
theorem keep {F₁ : Frame} {r r'} (hF : F₁.Keeps p c F) (h : Ends p c F₁ out r r') :
    Ends p c F out r r' := by
  cases h with
  | missing hf hid => exact .missing hf hid
  | error f => exact .error f
  | ok hR hF₁ => exact .ok hR (hF₁.trans hF)

/-- A text that has been put out before counts as said. -/
theorem cons {x : Eval (List String)} {r'} {s : String} (h : Ends p c F (.str s :: out) (x R) r') :
    Ends p c F out ((do return s :: (← x)) R) r' := by
  generalize hx : x R = r at h
  cases h with
  | missing hf hid =>
      rw [bind_of_error hx]
      exact .missing hf hid
  | error f =>
      rw [bind_of_error hx]
      exact .error f
  | ok hR hF =>
      rename_i texts R₁ F₁
      rw [bind_of_ok hx]
      have hout : texts.reverse.map Value.str ++ .str s :: out =
          (s :: texts).reverse.map .str ++ out := by simp
      rw [hout]
      exact .ok hR hF

/-- What is said and done one after the other; the first part may start from a changed frame, and
keep more than the second one. -/
theorem seq {c' : Nat} {F' : Frame} (hc : c ≤ c') (hF' : F'.Keeps p c F)
    {x₁ x₂ : Eval (List String)} {y₁ y₂ : Eval Unit} (h₁ : Ends p c' F' out (x₁ R) (y₁ M))
    (h₂ : ∀ R₁ F₁ out₁, R₁.IsApart p.assigned → F₁.Keeps p c' F' →
      Ends p c F₁ out₁ (x₂ R₁) (y₂ (R₁.inside F₁ out₁))) :
    Ends p c F out ((do return (← x₁) ++ (← x₂)) R) ((do y₁; y₂) M) := by
  generalize hx : x₁ R = r at h₁
  generalize hy : y₁ M = r' at h₁
  -- where the first part ends early, so do both sides, and the second part is not reached
  cases h₁ with
  | missing hf hid =>
      rw [bind_of_error hx]
      exact .missing hf hid
  | error f =>
      rw [bind_of_error hx, bind_of_error hy]
      exact .error f
  | ok hR hF =>
      rename_i texts R₁ F₁
      rw [bind_of_ok hx, bind_of_ok hy]
      have h := h₂ R₁ F₁ (texts.reverse.map .str ++ out) hR hF
      generalize hx₂ : x₂ R₁ = r at h
      generalize y₂ (R₁.inside F₁ (texts.reverse.map .str ++ out)) = r' at h ⊢
      cases h with
      | missing hf hid =>
          rw [bind_of_error hx₂]
          exact .missing hf hid
      | error f =>
          rw [bind_of_error hx₂]
          exact .error f
      | ok hR₂ hF₂ =>
          rename_i texts₂ R₂ F₂
          rw [bind_of_ok hx₂]
          -- what the second part puts out comes in front, for the output is kept in reverse
          have hout : texts₂.reverse.map Value.str ++ (texts.reverse.map .str ++ out) =
              (texts ++ texts₂).reverse.map .str ++ out := by simp
          rw [hout]
          exact .ok hR₂ (hF₂.trans ((hF.mono hc).trans hF'))

/-- A result that the machine has no part in. -/
theorem ofExcept {r : Except Fault α} {x : α → Eval (List String)} {y : α → Eval Unit}
    (h : ∀ a, Ends p c F out (x a R) (y a M)) :
    Ends p c F out ((Eval.ofExcept r >>= x) R) ((Eval.ofExcept r >>= y) M) := by
  cases r with
  | error f => exact .error f
  | ok a => exact h a

/-- An expression has the same value in the tree as in the program, which goes on from a frame that
keeps what it holds. -/
theorem value {hooks : Hooks} (hh : hooks.IsOblivious p.assigned) {env : Env} {e : Expr}
    (he : e.assigned ⊆ p.assigned) {L : Frame} (hR : R.IsApart p.assigned) (hF : F.Fits p c L)
    {out' : List Value} {x : Value → Eval (List String)} {y : Value → Eval Unit}
    (h : ∀ v R₁ F₁, R₁.IsApart p.assigned → F₁.Keeps p c F →
      Ends p c F₁ out (x v R₁) (y v (R₁.inside F₁ out'))) :
    Ends p c F out ((Meaning.value hooks env L e >>= x) R)
      ((Eval.expr hooks env e >>= y) (R.inside F out')) := by
  -- the machine of the tree, with the variables of the place
  let R₀ : Machine := { R with frames := R.frames.setIfInBounds Program.mainFrame L }
  have hR₀ : R₀.IsApart p.assigned := ⟨by simpa [R₀] using hR.hasFrame, hR.noOutput, hR.iterators⟩
  have hinside : R₀.inside F out' = R.inside F out' := by
    have hframes : (R.frames.setIfInBounds Program.mainFrame L).setIfInBounds Program.mainFrame F =
        R.frames.setIfInBounds Program.mainFrame F := by
      apply Array.ext_getElem?
      intro i
      by_cases h₀ : Program.mainFrame = i
      · subst h₀
        simp [Array.getElem?_setIfInBounds]
      · simp [h₀]
    simp only [R₀, Machine.inside, hframes]
  have hshows : R₀.Shows F := by
    refine ⟨fun name v hv => ?_, .output, (hF.output resultName .output rfl).2.2⟩
    have hsize := hR.hasFrame
    have hget : R₀.valueOf Program.mainFrame name = L.lookup name := by
      simp [R₀, Machine.valueOf, Program.mainFrame, hsize]
    rw [hget] at hv
    exact (hF.lexical name v hv).2.2
  have hvalue : Meaning.value hooks env L e R = Eval.expr hooks env e R₀ := rfl
  have hobl := Eval.Oblivious.expr hh env e (.inl he) R₀ F out' hR₀ hshows
  rw [hinside] at hobl
  obtain ⟨f, hf, id, hu, hid⟩ | ⟨f, hf, hf'⟩ | ⟨v, R₁, F₁, hv, hv', hR₁⟩ := hobl
  · -- the tree misses a variable that the program may have
    rw [bind_of_error (hvalue.trans hf)]
    refine .missing hu ?_
    obtain hid | ⟨w, hw⟩ := hid
    · exact p.assigned_subset_varNames hid
    · exact hF.within id w hw
  · rw [bind_of_error (hvalue.trans hf), bind_of_error hf']
    exact .error f
  · rw [bind_of_ok (hvalue.trans hv), bind_of_ok hv']
    have hkeep : F₁.Keeps p c F := .of_agrees c hR₁.agrees
    exact (h v R₁ F₁ hR₁.isApart hkeep).keep hkeep

end Ends

/-! ## Statements and nodes -/

variable {p : Program}

/-- Statements of a program that has its names for itself, and that say what a tree says, wherever
the variables of a place are held, and whatever waits to be put out. -/
structure Stmt.Say (p : Program) (c : Nat) (meaning : Frame → Eval (List String))
    (ss : List Stmt) : Prop where
  own : p.HasOwnNames
  ends : ∀ (L F : Frame) (R : Machine) (waiting out : List Value),
    R.IsApart p.assigned → F.Fits p c L →
      Ends p c F (waiting.reverse ++ out) (meaning L R)
        (Program.execWaiting Program.hooks p.env waiting ss (R.inside F out))

theorem Machine.hasOutput_inside {free : List String} {c : Nat} {F : Frame} {R : Machine}
    (hR : R.IsApart free) (hF : F.Holds free c Program.outputVariables) (out : List Value) :
    (R.inside F out).HasOutput := by
  intro x hx
  rw [valueOf_inside hR]
  refine (hF x.1 x.2 ?_).2.2
  simp only [Program.outputVariables, List.mem_cons, List.not_mem_nil, or_false] at hx
  obtain rfl | rfl | rfl := hx
  all_goals rfl

/-- Pieces that wait are put out. -/
theorem Eval.forM_gather_inside (vs : List Value) (R : Machine) (F : Frame) (out : List Value) :
    (forM vs Eval.gather : Eval Unit) (R.inside F out) =
      .ok ((), R.inside F (vs.reverse ++ out)) := by
  induction vs generalizing out with
  | nil => rfl
  | cons v vs ih =>
      have hv : Eval.gather v (R.inside F out) = .ok ((), R.inside F (v :: out)) := rfl
      rw [List.forM_cons, Eval.bind_of_ok hv, ih]
      simp

/-- A variable of the program is set in its frame. -/
theorem Eval.setVariable_inside {free : List String} {R : Machine} (hR : R.IsApart free) (F : Frame)
    (out : List Value) (name : String) (v : Value) :
    Eval.setVariable Program.mainFrame name v (R.inside F out) =
      .ok ((), R.inside (F.set name v) out) := by
  have hsize := hR.hasFrame
  -- Putting a frame in and then setting in it, or the other way round.
  have hframes : (R.frames.setIfInBounds Program.mainFrame F).modify Program.mainFrame
      (Frame.set name v) = R.frames.setIfInBounds Program.mainFrame (F.set name v) := by
    apply Array.ext_getElem?
    intro i
    by_cases h₀ : Program.mainFrame = i
    · subst h₀
      simp [Array.getElem_modify, Program.mainFrame, hsize]
    · simp [Array.getElem?_modify, h₀]
  show Except.ok ((), Machine.setVariable (R.inside F out) Program.mainFrame name v) = _
  rw [Machine.setVariable, Machine.inside, hframes]
  rfl

namespace Stmt.Say

variable {c : Nat} {meaning : Frame → Eval (List String)} {ss : List Stmt}

theorem mono {c' : Nat} (hc : c ≤ c') (h : Say p c' meaning ss) : Say p c meaning ss :=
  ⟨h.own, fun L F R waiting out hR hF => (h.ends L F R waiting out hR (hF.mono hc)).mono hc⟩

/-- Where nothing waits, the statements are simply done. -/
theorem execAll (h : Say p c meaning ss) {L F : Frame} {R : Machine} (out : List Value)
    (hR : R.IsApart p.assigned) (hF : F.Fits p c L) :
    Ends p c F out (meaning L R)
      (Program.execAll Program.hooks p.env ss (R.inside F out)) := by
  rw [Program.hooks, Eval.depthLimit,
    Program.execAll_eq_execWaiting (Machine.hasOutput_inside hR hF.output out)]
  exact h.ends L F R [] out hR hF

/-- No statements say nothing. -/
theorem nil (hp : p.HasOwnNames) : Say p c (fun _ => return []) [] := by
  refine ⟨hp, fun L F R waiting out hR _ => ?_⟩
  have hdone : Program.execWaiting Program.hooks p.env waiting [] (R.inside F out) =
      .ok ((), R.inside F (waiting.reverse ++ out)) := by
    show (do forM waiting Eval.gather; pure ()) (R.inside F out) = _
    rw [Eval.bind_of_ok (Eval.forM_gather_inside waiting R F out)]
    rfl
  rw [hdone]
  exact .silent hR (.refl _ c F)

/-- A text comes before what follows it. -/
theorem text (s : String) (h : Say p c meaning ss) :
    Say p c (fun L => do return [s] ++ (← meaning L)) (Generation.prepend (.text s) ss) := by
  refine ⟨h.own, fun L F R waiting out hR hF => ?_⟩
  rw [Program.execWaiting_prepend, Eval.expr_text, pure_bind]
  have hrest := h.ends L F R (waiting ++ [.str s]) out hR hF
  rw [List.reverse_append, List.append_assoc] at hrest
  exact hrest.cons

/-- The text that is made of the value of an expression comes before what follows it. -/
theorem piece {toText : Value → Except Fault String} {t : Term} {q : Piece}
    (hq : Eval.expr Program.hooks p.env q.expr = (do
      let v ← Eval.expr Program.hooks p.env t.expr
      Eval.ofExcept (.str <$> toText v)))
    (ht : t.expr.assigned ⊆ p.assigned) (h : Say p c meaning ss) :
    Say p c (fun L => do return (← Meaning.piece Program.hooks p.env toText t L) ++ (← meaning L))
      (Generation.prepend q ss) := by
  refine ⟨h.own, fun L F R waiting out hR hF => ?_⟩
  rw [Program.execWaiting_prepend, hq]
  simp only [Meaning.piece, bind_assoc, pure_bind]
  refine Ends.value (Eval.Oblivious.hooks _) ht hR hF fun v R₁ F₁ hR₁ hF₁ => ?_
  cases toText v with
  | error f => exact .error f
  -- The text goes behind those that wait, and from there on counts as said.
  | ok s =>
      have hrest := h.ends L F₁ R₁ (waiting ++ [.str s]) out hR₁ (hF.keep hF₁)
      rw [List.reverse_append, List.append_assoc] at hrest
      exact hrest.cons

/-- Statements after another one that takes no pieces that wait. -/
theorem of_exec {first : Frame → Eval (List String)} (y : Eval Unit)
    (front : List Stmt → List Stmt)
    (hfront : ∀ waiting, Program.execWaiting Program.hooks p.env waiting (front ss) = (do
      forM waiting Eval.gather
      y
      Program.execAll Program.hooks p.env ss))
    (hfirst : ∀ (L F : Frame) (R : Machine) (out : List Value), R.IsApart p.assigned →
      F.Fits p c L → Ends p c F out (first L R) (y (R.inside F out)))
    (h : Say p c meaning ss) :
    Say p c (fun L => do return (← first L) ++ (← meaning L)) (front ss) := by
  refine ⟨h.own, fun L F R waiting out hR hF => ?_⟩
  rw [hfront, Eval.bind_of_ok (Eval.forM_gather_inside waiting R F out)]
  -- after the first statement the frame still fits, because it has been kept
  refine Ends.seq (Nat.le_refl c) (.refl _ c F) (hfirst L F R _ hR hF) ?_
  intro R₁ F₁ out₁ hR₁ hF₁
  exact h.execAll out₁ hR₁ (hF.keep hF₁)

/-- The body of a block is done as its statements are. -/
theorem execAll_block (h : Hooks) (env : Env) (ss : List Stmt) :
    Program.execAll h env (Generation.block ss) = Program.execAll h env ss := by
  cases ss with
  | nil => rfl
  | cons s ss => rfl

/-- What stands under a condition comes before what follows it. -/
theorem branch {condition : Term} {body : List Stmt} {inner : Frame → Eval (List String)}
    (hc : condition.expr.assigned ⊆ p.assigned) (hbody : Say p c inner body)
    (h : Say p c meaning ss) :
    Say p c (fun L => do
        return (← (do
          if (← Meaning.value Program.hooks p.env L condition.expr).isTrue then inner L
          else return [])) ++ (← meaning L))
      (.branch condition (Generation.block body) :: ss) := by
  refine of_exec _ (fun ss => .branch condition (Generation.block body) :: ss)
    (fun waiting => rfl) (fun L F R out hR hF => ?_) h
  rw [Program.exec, execAll_block]
  refine Ends.value (Eval.Oblivious.hooks _) hc hR hF fun v R₁ F₁ hR₁ hF₁ => ?_
  cases v.isTrue with
  | true => exact hbody.execAll out hR₁ (hF.keep hF₁)
  | false => exact .silent hR₁ (.refl _ c F₁)

/-! ## Loops -/

theorem lookup_bindings (names : LoopNames) (items v : Value) (i : Nat) (L : Frame) (id : String) :
    List.lookup id (names.bindings items i v ++ L) =
      if id = names.item then some v else if id = names.index then some (.int i)
      else if id = names.items then some items else List.lookup id L := by
  have hcons (name : String) (w : Value) (M : Frame) :
      List.lookup id ((name, w) :: M) = if id = name then some w else List.lookup id M := by
    by_cases h : id = name
    · simp [h]
    · have hne : (id == name) = false := by simpa using h
      rw [List.lookup_cons, hne, if_neg h]
  simp only [LoopNames.bindings, List.cons_append, List.nil_append, hcons]

/-- The variables of a round hold when they have been set. -/
theorem holds_round {free : List String} {F L : Frame} (hL : F.Holds free c L)
    (hfree : ∀ id ∈ (LoopNames.numbered loopLead (c + 1)).all, id ∉ free) {items : Value}
    (hitems : F.lookup (LoopNames.numbered loopLead (c + 1)).items = some items) (i : Nat)
    (v : Value) :
    Frame.Holds free (c + 1)
      ((F.set (LoopNames.numbered loopLead (c + 1)).index (.int i)).set
        (LoopNames.numbered loopLead (c + 1)).item v)
      ((LoopNames.numbered loopLead (c + 1)).bindings items i v ++ L) := by
  intro id w hw
  have hsettled (hid : id ∈ (LoopNames.numbered loopLead (c + 1)).all) :
      LoopNames.IsSettled (c + 1) id := LoopNames.isSettled_of_mem_all hid
  generalize LoopNames.numbered loopLead (c + 1) = names at *
  rw [lookup_bindings] at hw
  rw [Frame.lookup_set, Frame.lookup_set]
  -- each of the names of the round has been set, or was bound before; others are not touched
  by_cases hitem : id = names.item
  · rw [if_pos hitem] at hw ⊢
    have hid : id ∈ names.all := by simp [hitem, LoopNames.all]
    exact ⟨hsettled hid, hfree id hid, hw⟩
  rw [if_neg hitem] at hw ⊢
  by_cases hindex : id = names.index
  · rw [if_pos hindex] at hw ⊢
    have hid : id ∈ names.all := by simp [hindex, LoopNames.all]
    exact ⟨hsettled hid, hfree id hid, hw⟩
  rw [if_neg hindex] at hw ⊢
  by_cases hits : id = names.items
  · rw [if_pos hits] at hw
    rw [← hits] at hitems
    have hid : id ∈ names.all := by simp [hits, LoopNames.all]
    exact ⟨hsettled hid, hfree id hid, hitems.trans hw⟩
  rw [if_neg hits] at hw
  exact ⟨(hL id w hw).1.mono (Nat.le_succ c), (hL id w hw).2⟩

/-- The rounds of a loop, from the round `i` on. Every round keeps the variable of the items, so
that the next one finds the frame as it was but for the index and the item. -/
theorem rounds {body : List Stmt} {inner : Frame → Eval (List String)} {items : Value} {L : Frame}
    (hbody : Say p (c + 1) inner body) (vs : List Value) (i : Nat) {F : Frame} {R : Machine}
    (out : List Value) (hR : R.IsApart p.assigned) (hF : F.Fits p c L)
    (hbound : (LoopNames.numbered loopLead (c + 1)).all ⊆ boundOfStmts p.body)
    (hitems : F.lookup (LoopNames.numbered loopLead (c + 1)).items = some items) :
    Ends p c F out
      ((do
        let said ← (vs.zipIdx i).mapM fun (w, j) =>
          inner ((LoopNames.numbered loopLead (c + 1)).bindings items j w ++ L)
        return said.flatten) R)
      ((do
        let _ ← vs.foldlM (fun (j : Nat) w => do
          Eval.setVariable Program.mainFrame (LoopNames.numbered loopLead (c + 1)).index (.int j)
          Eval.setVariable Program.mainFrame (LoopNames.numbered loopLead (c + 1)).item w
          Program.execAll Program.hooks p.env body
          return j + 1) i
        return ()) (R.inside F out)) := by
  induction vs generalizing i F R out with
  | nil => exact .silent hR (.refl _ c F)
  | cons v vs ih =>
      have hmem (name : String) (h : name ∈ (LoopNames.numbered loopLead (c + 1)).all) (w : Value)
          (F : Frame) : (F.set name w).Keeps p c F :=
        Frame.keeps_set (Nat.lt_succ_self c) h (p.bound_subset_varNames (hbound h)) w F
      have hfree (id : String) (hid : id ∈ (LoopNames.numbered loopLead (c + 1)).all) :
          id ∉ p.assigned := hbody.own.not_mem_assigned_of_bound (hbound hid)
      have hround := holds_round hF.lexical hfree hitems i v
      have hnodup := LoopNames.nodup_all loopLead (c + 1)
      have hsettled : LoopNames.IsSettled (c + 1) (LoopNames.numbered loopLead (c + 1)).items :=
        LoopNames.isSettled_of_mem_all (by simp [LoopNames.all])
      generalize hnames : LoopNames.numbered loopLead (c + 1) = names at *
      -- the frame in which the body of this round is done
      let F' := (F.set names.index (.int i)).set names.item v
      have hF' : F'.Keeps p c F :=
        (hmem _ (by simp [LoopNames.all]) v _).trans (hmem _ (by simp [LoopNames.all]) (.int i) F)
      have hfits : F'.Fits p (c + 1) (names.bindings items i v ++ L) :=
        ⟨hround, ((hF.keep hF').mono (Nat.le_succ c)).output, hF'.within hF.within⟩
      have hset : (do
            Eval.setVariable Program.mainFrame names.index (.int i)
            Eval.setVariable Program.mainFrame names.item v
            Program.execAll Program.hooks p.env body) (R.inside F out) =
          Program.execAll Program.hooks p.env body (R.inside F' out) := by
        rw [Eval.bind_of_ok (Eval.setVariable_inside hR F out _ _),
          Eval.bind_of_ok (Eval.setVariable_inside hR _ out _ _)]
      have hfirst := hbody.execAll out hR hfits
      rw [← hset] at hfirst
      rw [List.zipIdx_cons, List.mapM_cons, List.foldlM_cons]
      have hitems' : F'.lookup names.items = some items := by
        simp only [LoopNames.all, List.nodup_cons, List.mem_cons, List.not_mem_nil, or_false,
          not_or] at hnodup
        rw [Frame.lookup_set, if_neg (Ne.symm hnodup.1.2), Frame.lookup_set,
          if_neg (Ne.symm hnodup.2.1), hitems]
      -- the loops inside have other names, so the items are still there for the rounds that follow
      have hrest := Ends.seq (Nat.le_succ c) hF' hfirst fun R₁ F₁ out₁ hR₁ hF₁ =>
        have hkeep : F₁.Keeps p c F := (hF₁.mono (Nat.le_succ c)).trans hF'
        have hkept : F₁.lookup names.items = some items :=
          (hF₁.settled names.items hsettled (hfree _ (by simp [LoopNames.all]))).trans hitems'
        ih (i + 1) out₁ hR₁ (hF.keep hkeep) hkept
      simpa only [bind_assoc, pure_bind, List.flatten_cons] using hrest

/-- The guard of a loop asks whether the items that have been bound are an array. -/
theorem expr_guard (hp : p.HasOwnNames) {id : String} {m : Machine} {items : Value}
    (hload : Eval.load p.env id m = .ok (items, m)) :
    Eval.expr Program.hooks p.env (Stmt.guardExpr id) m = .ok (.bool items.items?.isSome, m) := by
  have hitems : items.isArray = items.items?.isSome := by
    cases items
    all_goals rfl
  rw [Stmt.guardExpr, Program.hooks, Eval.depthLimit, Eval.expr_helper hp rfl, Eval.expr,
    Eval.bind_of_ok hload, ← hitems]
  rfl

/-- A loop goes through the items that have been bound. -/
theorem exec_loop (hp : p.HasOwnNames) {names : LoopNames} {body : List Stmt} {m : Machine}
    {items : Value} {vs : List Value} (hload : Eval.load p.env names.items m = .ok (items, m))
    (hvs : items.items? = some vs) :
    Program.exec Program.hooks p.env (.loop names (Generation.block body)) m = (do
      let _ ← vs.foldlM (fun (j : Nat) w => do
        Eval.setVariable Program.mainFrame names.index (.int j)
        Eval.setVariable Program.mainFrame names.item w
        Program.execAll Program.hooks p.env body
        return j + 1) 0
      return ()) m := by
  rw [Program.exec, Eval.load_counter hp, pure_bind, Eval.bind_of_ok hload]
  simp only [hvs, execAll_block]

/-- A loop comes before what follows it. -/
theorem each {items : Term} {body : List Stmt}
    {inner : Frame → Eval (List String)} (hi : items.expr.assigned ⊆ p.assigned)
    (hbody : Say p (c + 1) inner body) (h : Say p c meaning ss)
    (hbound : (LoopNames.numbered loopLead (c + 1)).all ⊆ boundOfStmts p.body) :
    Say p c (fun L => do
        return (← (do
          let v ← Meaning.value Program.hooks p.env L items.expr
          match v.items? with
          | none => return []
          | some vs =>
            let rounds ← vs.zipIdx.mapM fun (w, i) =>
              inner ((LoopNames.numbered loopLead (c + 1)).bindings v i w ++ L)
            return rounds.flatten)) ++ (← meaning L))
      (.bind (LoopNames.numbered loopLead (c + 1)).items items ::
        .guard (LoopNames.numbered loopLead (c + 1)).items
          [.loop (LoopNames.numbered loopLead (c + 1)) (Generation.block body)] :: ss) := by
  refine of_exec
    (do
      Program.exec Program.hooks p.env (.bind (LoopNames.numbered loopLead (c + 1)).items items)
      Program.exec Program.hooks p.env (.guard (LoopNames.numbered loopLead (c + 1)).items
        [.loop (LoopNames.numbered loopLead (c + 1)) (Generation.block body)]))
    (fun ss => .bind (LoopNames.numbered loopLead (c + 1)).items items ::
      .guard (LoopNames.numbered loopLead (c + 1)).items
        [.loop (LoopNames.numbered loopLead (c + 1)) (Generation.block body)] :: ss)
    (fun waiting => by simp only [bind_assoc]; rfl) (fun L F R out hR hF => ?_) h
  rw [Program.exec, bind_assoc]
  refine Ends.value (Eval.Oblivious.hooks _) hi hR hF fun v R₁ F₁ hR₁ hF₁ => ?_
  have hmem : (LoopNames.numbered loopLead (c + 1)).items ∈
      (LoopNames.numbered loopLead (c + 1)).all := by simp [LoopNames.all]
  have hvar := p.bound_subset_varNames (hbound hmem)
  have hne : (LoopNames.numbered loopLead (c + 1)).items ≠ resultName := by
    intro heq
    rw [heq] at hmem
    exact LoopNames.not_mem_all_of_not_isDigit (by decide) (c + 1) hmem
  -- the items are bound once, before the guard looks at them
  let F' := F₁.set (LoopNames.numbered loopLead (c + 1)).items v
  have hF' : F'.Keeps p c F₁ := Frame.keeps_set (Nat.lt_succ_self c) hmem hvar v F₁
  have hitems : F'.lookup (LoopNames.numbered loopLead (c + 1)).items = some v := by
    rw [Frame.lookup_set, if_pos rfl]
  have hload : Eval.load p.env (LoopNames.numbered loopLead (c + 1)).items (R₁.inside F' out) =
      .ok (v, R₁.inside F' out) :=
    Eval.load_of_mem_varNames hvar ((Machine.valueOf_inside hR₁ F' out _).trans hitems) hne
  rw [Eval.bind_of_ok (Eval.setVariable_inside hR₁ F₁ out _ v), Program.exec,
    Eval.bind_of_ok (expr_guard h.own hload)]
  cases hvs : v.items? with
  | none => exact .silent hR₁ hF'
  | some vs =>
      have hrounds := rounds hbody vs 0 out hR₁ ((hF.keep hF₁).keep hF') hbound hitems
      rw [← exec_loop h.own hload hvs] at hrounds
      have hexec : Program.execAll Program.hooks p.env
          [.loop (LoopNames.numbered loopLead (c + 1)) (Generation.block body)] =
          Program.exec Program.hooks p.env
            (.loop (LoopNames.numbered loopLead (c + 1)) (Generation.block body)) := by
        simp only [Program.execAll]
        exact bind_pure _
      simp only [Option.isSome_some, Value.isTrue, hexec]
      exact hrounds.keep hF'

end Stmt.Say

end Curly
