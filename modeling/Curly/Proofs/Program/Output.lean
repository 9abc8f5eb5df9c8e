import Curly.Proofs.Program.Generation
import Curly.Proofs.Term.Reader

/-!
What single statements of a program do: loads of its variables and of the helpers, and output.

An output statement evaluates all of its pieces before it adds any. To follow a program piece by
piece, it is run with pieces *waiting*: those that have been evaluated, and that the next statement
is going to add. A piece put before a program is then one more piece that waits.
-/

namespace Curly

/-- A program that has the names that it relies on for itself: its loops have names of loops, and no
expression assigns a name that it relies on. -/
structure Program.HasOwnNames (p : Program) : Prop where
  loops : ∀ id ∈ boundOfStmts p.body, LoopNames.IsOfLoop id
  apart : ∀ id ∈ p.assigned, id ∉ p.reliedOn

/-- Expressions assign none of the variables that a program is given. -/
theorem Program.HasOwnNames.not_mem_assigned {p : Program} (hp : p.HasOwnNames) {id : String}
    (hid : id ∈ contextName :: Program.outputVariables.map (·.1)) : id ∉ p.assigned := by
  intro ha
  apply hp.apart id ha
  rw [Program.reliedOn]
  exact List.mem_append_left _ (List.mem_append_left _ (List.mem_append_left _ hid))

/-- Expressions assign no variable of a loop. -/
theorem Program.HasOwnNames.not_mem_assigned_of_bound {p : Program} (hp : p.HasOwnNames)
    {id : String} (hid : id ∈ boundOfStmts p.body) : id ∉ p.assigned :=
  fun ha => hp.apart id ha (List.mem_append_right _ hid)

/-- A program without statements relies on no names that it could lose. -/
theorem Program.hasOwnNames_nil : (⟨[]⟩ : Program).HasOwnNames :=
  ⟨fun _ hid => absurd hid List.not_mem_nil, fun _ hid => absurd hid List.not_mem_nil⟩

/-- What expressions assign are variables of the program. -/
theorem Program.assigned_subset_varNames (p : Program) : p.assigned ⊆ p.varNames := by
  intro id hid
  exact List.mem_append_right _ ((mem_varNamesOfAll p.body).2 (.inr hid))

/-- What loops bind are variables of the program. -/
theorem Program.bound_subset_varNames (p : Program) : boundOfStmts p.body ⊆ p.varNames := by
  intro id hid
  exact List.mem_append_right _ ((mem_varNamesOfAll p.body).2 (.inl hid))

/-- A machine on which the variables of the output have the values that they start with. -/
def Machine.HasOutput (m : Machine) : Prop :=
  ∀ x ∈ Program.outputVariables, m.valueOf Program.mainFrame x.1 = some x.2

theorem Piece.isStarred_expr (q : Piece) : q.expr.isStarred = false := by
  cases q with
  | text => rfl
  | escaped => rfl
  | plain => rfl

namespace Eval

variable {p : Program} {h : Hooks} {m : Machine}

/-- A sequence depends on what its first part does on the machine alone. -/
theorem bind_congr_left {x y : Eval α} {k : α → Eval β} (hxy : x m = y m) :
    (x >>= k) m = (y >>= k) m := by
  simp only [Bind.bind, StateT.bind, hxy]

/-! ## Loads and calls -/

/-- A variable of the program is read from its frame. -/
theorem load_of_mem_varNames {id : String} {v : Value} (hid : id ∈ p.varNames)
    (hv : m.valueOf Program.mainFrame id = some v) (hout : id ≠ resultName) :
    load p.env id m = .ok (v, m) := by
  have hfind : p.env.binders.find? (·.names.contains id) =
      some ⟨Program.mainFrame, p.varNames, true⟩ := by
    simp [Program.env, hid]
  have hget : (get : Eval Machine) m = .ok (m, m) := rfl
  rw [load, hfind]
  dsimp only
  rw [bind_of_ok hget, hv]
  -- The output list is a case of its own, but only under the name of the result.
  cases v with
  | output =>
      dsimp only
      rw [if_neg hout]
      rfl
  | _ => rfl

/-- What is no variable of the program is a helper or a built-in name. -/
theorem load_of_not_mem_varNames {id : String} (hid : id ∉ p.varNames) :
    load p.env id = global id := by
  have hfind : p.env.binders.find? (·.names.contains id) = none := by
    simp [Program.env, hid]
  rw [load, hfind]

/-- A name without digits is no variable, unless it is the data or the output, or expressions assign
it. -/
theorem not_mem_varNames (hp : p.HasOwnNames) {id : String} (ha : id ∉ p.assigned)
    (hid : id.toList.all (!·.isDigit) = true)
    (hne : id ∉ contextName :: Program.outputVariables.map (·.1)) : id ∉ p.varNames := by
  intro hmem
  rw [Program.varNames, List.mem_append, mem_varNamesOfAll] at hmem
  obtain hmem | hmem | hmem := hmem
  · exact hne hmem
  · obtain ⟨n, hn⟩ := hp.loops id hmem
    exact LoopNames.not_mem_all_of_not_isDigit hid n hn
  · exact ha hmem

/-- Arguments that are not starred are evaluated in their order. -/
theorem arguments_positional {env : Env} (function : Value) (fault : String → Fault) (a : Arguments)
    (es : List Expr) (hes : ∀ e ∈ es, e.isStarred = false) :
    arguments h env function fault a (es.map .positional) = (do
      let vs ← es.mapM (expr h env)
      return { a with positional := a.positional ++ vs }) := by
  induction es generalizing a with
  | nil =>
      rw [List.map_nil, arguments, List.mapM_nil, pure_bind, List.append_nil]
  | cons e es ih =>
      have he : e.isStarred = false := hes e List.mem_cons_self
      rw [List.map_cons, arguments, List.mapM_cons]
      · simp only [ih _ fun e' he' => hes e' (List.mem_cons_of_mem e he'), bind_assoc, pure_bind,
          List.append_assoc, List.singleton_append]
      · rintro e' rfl
        cases he

/-- A call with arguments that are not starred. -/
theorem expr_apply_all {env : Env} {es : List Expr} (hes : ∀ e ∈ es, e.isStarred = false)
    (f : String) :
    expr h env (.apply (.name f) es) = (do
      let function ← load env f
      let vs ← es.mapM (expr h env)
      h.call function (.ofList vs)) := by
  rw [Expr.apply, expr, expr]
  simp only [arguments_positional _ _ _ es hes, bind_assoc, pure_bind]
  rfl

/-- A call with one argument that is not starred. -/
theorem expr_apply {env : Env} {e : Expr} (he : e.isStarred = false) (f : String) :
    expr h env (.apply (.name f) [e]) = (do
      let function ← load env f
      let v ← expr h env e
      h.call function (.ofList [v])) := by
  rw [expr_apply_all (by simpa using he)]
  simp only [List.mapM_cons, List.mapM_nil, bind_assoc, pure_bind]

/-- The name of a helper stands for the helper. -/
theorem load_helper (hp : p.HasOwnNames) (which : Helper) :
    load p.env which.name = pure (.helper which) := by
  -- What the name of a helper must not be is checked for each of the helpers.
  have hdigits : which.name.toList.all (!·.isDigit) = true := by
    cases which
    all_goals decide
  have hne : which.name ∉ contextName :: Program.outputVariables.map (·.1) := by
    cases which
    all_goals decide
  have hname : Helper.ofName? which.name = some which := by
    cases which
    all_goals decide
  have hall : which ∈ Helper.all := by
    cases which
    all_goals decide
  have hrel : which.name ∈ p.reliedOn := by
    simp only [Program.reliedOn, List.mem_append]
    exact .inl (.inl (.inr (List.mem_map_of_mem hall)))
  rw [load_of_not_mem_varNames (not_mem_varNames hp (fun ha => hp.apart _ ha hrel) hdigits hne),
    global, hname]

/-- What counts the items of a loop is the built-in type. -/
theorem load_counter (hp : p.HasOwnNames) :
    load p.env Stmt.counterName = pure (.type "enumerate") := by
  have hdigits : Stmt.counterName.toList.all (!·.isDigit) = true := by decide
  have hne : Stmt.counterName ∉ contextName :: Program.outputVariables.map (·.1) := by decide
  have hrel : Stmt.counterName ∈ p.reliedOn := by simp [Program.reliedOn]
  rw [load_of_not_mem_varNames (not_mem_varNames hp (fun ha => hp.apart _ ha hrel) hdigits hne)]
  rfl

/-- A call of a helper with arguments that are not starred. -/
theorem expr_helper_all (hp : p.HasOwnNames) {d : Nat} {es : List Expr}
    (hes : ∀ e ∈ es, e.isStarred = false) (which : Helper) :
    expr (hooks (d + 1)) p.env (Term.call which es) = (do
      let vs ← es.mapM (expr (hooks (d + 1)) p.env)
      ofExcept (which.call (.ofList vs))) := by
  rw [Term.call, expr_apply_all hes, load_helper hp, pure_bind]
  rfl

/-- A call of a helper with one argument that is not starred. -/
theorem expr_helper (hp : p.HasOwnNames) {d : Nat} {e : Expr} (he : e.isStarred = false)
    (which : Helper) :
    expr (hooks (d + 1)) p.env (Term.call which [e]) = (do
      let v ← expr (hooks (d + 1)) p.env e
      ofExcept (which.call (.ofList [v]))) := by
  rw [expr_helper_all hp (by simpa using he)]
  simp only [List.mapM_cons, List.mapM_nil, bind_assoc, pure_bind]

theorem expr_text (env : Env) (text : String) :
    expr h env (Piece.text text).expr = pure (.str text) := by
  rw [Piece.expr, Expr.str, expr]
  rfl

/-- The value of a piece that is escaped. -/
theorem expr_escaped (hp : p.HasOwnNames) {d : Nat} {t : Term} (ht : t.expr.isStarred = false) :
    expr (hooks (d + 1)) p.env (Piece.escaped t).expr = (do
      let v ← expr (hooks (d + 1)) p.env t.expr
      ofExcept (.str <$> v.escaped)) := by
  rw [Piece.expr, expr_helper hp ht]
  rfl

/-- The value of a piece that is put out as it is. -/
theorem expr_plain (hp : p.HasOwnNames) {d : Nat} {t : Term} (ht : t.expr.isStarred = false) :
    expr (hooks (d + 1)) p.env (Piece.plain t).expr = (do
      let v ← expr (hooks (d + 1)) p.env t.expr
      ofExcept (.str <$> v.stringify)) := by
  rw [Piece.expr, expr_helper hp ht]
  rfl

/-- Binders further in hide a variable only if they bind its name. -/
theorem load_inside {inner : List Binder} {id : String} (hid : ∀ b ∈ inner, id ∉ b.names)
    (path : String) {r : Value × Machine} (hload : load p.env id m = .ok r) :
    load ⟨inner ++ p.env.binders, path⟩ id m = .ok r := by
  -- the search goes through the inner binders first and finds none, so it goes on as before
  have hfind : inner.find? (·.names.contains id) = none := by
    rw [List.find?_eq_none]
    intro b hb
    simpa using hid b hb
  rw [load] at hload ⊢
  rw [List.find?_append, hfind, Option.none_or]
  cases hp : p.env.binders.find? (·.names.contains id) with
  | none => rwa [hp] at hload
  | some b =>
      have hget : (get : Eval Machine) m = .ok (m, m) := rfl
      rw [hp] at hload
      dsimp only at hload ⊢
      rw [bind_of_ok hget] at hload ⊢
      cases hv : m.valueOf b.frame id with
      | none =>
          rw [hv] at hload
          dsimp only at hload
          split at hload
          · cases hload
          · cases hload
      | some v =>
          rw [hv] at hload
          cases v with
          | output => exact hload
          | _ => exact hload

/-- What redirection puts in for a name reads the data inside of lambdas and comprehensions, too, if
none of them binds the helper or the data. -/
theorem expr_resolve (hp : p.HasOwnNames) {d : Nat} {inner : List Binder} (path id : String)
    {context : Value}
    (hinner : ∀ b ∈ inner, Helper.resolve.name ∉ b.names ∧ contextName ∉ b.names)
    (hcontext : m.valueOf Program.mainFrame contextName = some context) :
    expr (hooks (d + 1)) ⟨inner ++ p.env.binders, path⟩ (.resolve id) m =
      .ok (context.resolve id, m) := by
  have hhelper : load ⟨inner ++ p.env.binders, path⟩ Helper.resolve.name m =
      .ok (.helper .resolve, m) :=
    load_inside (fun b hb => (hinner b hb).1) path (congrFun (load_helper hp .resolve) m)
  have hdata : load ⟨inner ++ p.env.binders, path⟩ contextName m = .ok (context, m) :=
    load_inside (fun b hb => (hinner b hb).2) path
      (load_of_mem_varNames (by simp [Program.varNames]) hcontext (by decide))
  rw [Expr.resolve, Expr.apply, List.map_cons, List.map_cons, List.map_nil, expr, expr]
  rw [bind_of_ok hhelper]
  simp only [arguments, Expr.str, expr, bind_assoc, pure_bind]
  rw [bind_of_ok hdata]
  rfl

/-! ## Output -/

/-- The values of the pieces of an output statement. -/
def pieces (h : Hooks) (env : Env) (ps : List Piece) : Eval (List Value) :=
  ps.mapM fun q => expr h env q.expr

theorem pieces_cons (env : Env) (q : Piece) (ps : List Piece) :
    pieces h env (q :: ps) = (do
      let v ← expr h env q.expr
      let vs ← pieces h env ps
      return v :: vs) := by
  rw [pieces, List.mapM_cons]
  rfl

theorem spread_pieces (env : Env) (fault : String → Fault) (ps : List Piece) :
    spread h env fault (ps.map Piece.expr) = pieces h env ps := by
  induction ps with
  | nil => rfl
  | cons q ps ih =>
      rw [List.map_cons, spread, ih, pieces_cons]
      intro e he
      have hq := q.isStarred_expr
      rw [he] at hq
      cases hq

/-- Going through a list adds its elements to the output in turn. -/
theorem fold_gather (vs : List Value) :
    fold h (.list vs) () (fun _ v => do return .yield (← gather v)) = forM vs gather := by
  show foldItems _ () vs = _
  induction vs with
  | nil => rfl
  | cons v vs ih =>
      rw [foldItems, List.forM_cons]
      simp only [bind_assoc, pure_bind, ih]

/-- A variable of the output has its value. -/
theorem load_output {name : String} {v : Value} (hm : m.HasOutput)
    (hmem : (name, v) ∈ Program.outputVariables) (hname : name ≠ resultName) :
    load p.env name m = .ok (v, m) := by
  have hid : name ∈ p.varNames :=
    List.mem_append_left _ (List.mem_cons_of_mem _ (List.mem_map_of_mem hmem))
  exact load_of_mem_varNames hid (hm _ hmem) hname

/-- An output statement evaluates its pieces and adds their values. -/
theorem exec_emit {d : Nat} (hm : m.HasOutput) (ps : List Piece) :
    Program.exec (hooks (d + 1)) p.env (.emit ps) m =
      (do forM (← pieces (hooks (d + 1)) p.env ps) gather) m := by
  have happend : load p.env appendName m = .ok (.method .output "append", m) :=
    load_output hm (List.mem_cons_of_mem _ List.mem_cons_self) (by decide)
  have hextend : load p.env extendName m = .ok (.method .output "extend", m) :=
    load_output hm (List.mem_cons_of_mem _ (List.mem_cons_of_mem _ List.mem_cons_self)) (by decide)
  have hcallAppend (v : Value) :
      (hooks (d + 1)).call (.method .output "append") (.ofList [v]) = (do
        gather v
        return .none) := rfl
  have hcallExtend (vs : List Value) :
      (hooks (d + 1)).call (.method .output "extend") (.ofList [.list vs]) = (do
        forM vs gather
        return .none) := by
    rw [← fold_gather (h := hooks d)]
    rfl
  -- what a display of the pieces comes to
  have hmany : (do
        let _ ← expr (hooks (d + 1)) p.env
          (.apply (.name extendName) [.display .list (ps.map Piece.expr)])
        return ()) m = (do forM (← pieces (hooks (d + 1)) p.env ps) gather) m := by
    rw [expr_apply rfl, bind_assoc, bind_of_ok hextend, expr]
    simp [hcallExtend, spread_pieces]
  rw [Program.exec]
  cases ps with
  | nil => exact hmany
  | cons q rest =>
      cases rest with
      | cons r rest => exact hmany
      | nil =>
          rw [Stmt.emitExpr, expr_apply q.isStarred_expr, pieces_cons, bind_assoc,
            bind_of_ok happend]
          simp [hcallAppend, pieces]

end Eval

/-! ## Pieces that wait -/

namespace Program

/-- Does statements when pieces are waiting to be put out before them: with the first statement, if
this is output. -/
def execWaiting (h : Hooks) (env : Env) (waiting : List Value) : List Stmt → Eval Unit
  | .emit ps :: ss => do
    let vs ← Eval.pieces h env ps
    forM (waiting ++ vs) Eval.gather
    execAll h env ss
  | ss => do
    forM waiting Eval.gather
    execAll h env ss

/-- A piece before a program is one more piece that waits. -/
theorem execWaiting_prepend (h : Hooks) (env : Env) (waiting : List Value) (q : Piece)
    (ss : List Stmt) :
    execWaiting h env waiting (Generation.prepend q ss) = (do
      let v ← Eval.expr h env q.expr
      execWaiting h env (waiting ++ [v]) ss) := by
  -- the piece becomes a statement of its own, unless the next one puts out pieces as well
  have hone (ss : List Stmt) (hss : ∀ v, execWaiting h env (waiting ++ [v]) ss = (do
        forM (waiting ++ [v]) Eval.gather
        execAll h env ss)) :
      execWaiting h env waiting (.emit [q] :: ss) = (do
        let v ← Eval.expr h env q.expr
        execWaiting h env (waiting ++ [v]) ss) := by
    simp only [hss]
    rw [execWaiting, Eval.pieces_cons]
    simp [Eval.pieces]
  cases ss with
  | nil => exact hone [] fun _ => rfl
  | cons s ss =>
      cases s with
      | emit ps =>
          rw [Generation.prepend]
          simp only [execWaiting, Eval.pieces_cons, bind_assoc, pure_bind, List.append_assoc,
            List.singleton_append]
      | _ => exact hone _ fun _ => rfl

/-- Statements are done as with no piece waiting. -/
theorem execAll_eq_execWaiting {p : Program} {m : Machine} {d : Nat} (hm : m.HasOutput)
    (ss : List Stmt) :
    execAll (Eval.hooks (d + 1)) p.env ss m =
      execWaiting (Eval.hooks (d + 1)) p.env [] ss m := by
  cases ss with
  | nil => rfl
  | cons s ss =>
      cases s with
      | emit ps =>
          rw [execAll, execWaiting]
          rw [Eval.bind_congr_left (Eval.exec_emit hm ps), bind_assoc]
          rfl
      | _ => rfl

end Program

end Curly
