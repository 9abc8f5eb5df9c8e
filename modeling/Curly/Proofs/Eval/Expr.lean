import Curly.Proofs.Eval.Builtin

/-!
The evaluator is oblivious: what an expression comes to depends on the generated function around it
only through those of its variables that have a value, and of them it changes only what it assigns
itself. So an expression is asked to assign no other variables of the function than free ones.

The proof follows the expression; calls and iterators take one hook each, and the hooks of every
depth are oblivious by induction on the depth.
-/

namespace Curly

variable {free : List String}

namespace Env.Spares

variable {env : Env} {ns ms : List String}

theorem mono (h : env.Spares free ns) (hsub : ms ⊆ ns) : env.Spares free ms := by
  obtain hfree | hfun := h
  · exact .inl (List.Subset.trans hsub hfree)
  · exact .inr hfun

theorem left (h : env.Spares free (ns ++ ms)) : env.Spares free ns :=
  h.mono (List.subset_append_left ns ms)

theorem right (h : env.Spares free (ns ++ ms)) : env.Spares free ms :=
  h.mono (List.subset_append_right ns ms)

/-- A comprehension assigns in the function around it. -/
theorem comprehension (h : env.Spares free ns) (frame : Nat) (names : List String)
    (path : String) : Env.Spares free ⟨⟨frame, names, false⟩ :: env.binders, path⟩ ns := by
  obtain hfree | hfun := h
  · exact .inl hfree
  · exact .inr fun b hb => hfun b (by simpa using hb)

/-- A function assigns in its own frame. -/
theorem function {frame : Nat} (hf : frame ≠ Program.mainFrame) (names : List String)
    (binders : List Binder) (path : String) (ns : List String) :
    Env.Spares free ⟨⟨frame, names, true⟩ :: binders, path⟩ ns := by
  refine .inr fun b hb => ?_
  obtain rfl : _ = b := by simpa using hb
  exact hf

end Env.Spares

namespace Eval.Oblivious

variable {h : Hooks}

theorem compare (hh : h.IsOblivious free) (op : CompareOp) (e f : Expr) (a b : Value) :
    Oblivious free (Eval.compare h op e f a b) := by
  unfold Eval.compare
  split
  · exact pure _
  · exact pure _
  · exact pure _
  · exact pure _
  · exact contains hh b a
  · exact bind (contains hh b a) fun _ => pure _
  · exact ofExcept _

theorem collect (hh : h.IsOblivious free) (kind : ComprehensionKind) (generator : Value) :
    Oblivious free (Eval.collect h kind generator) := by
  cases kind with
  | generator => exact pure _
  | list => exact bind (elements hh _) fun _ => pure _
  | set =>
      exact bind (fold hh (fun _ _ => bind (ofExcept _) fun _ => pure _) _ _) fun _ => pure _
  | dict =>
      refine bind (fold hh (fun entries v => ?_) _ _) fun _ => pure _
      split
      · exact bind (ofExcept _) fun _ => pure _
      · exact pure _

theorem starredElements (hh : h.IsOblivious free) (fault : String → Fault) (v : Value) :
    Oblivious free (Eval.starredElements h fault v) := by
  unfold Eval.starredElements
  split
  · exact elements hh _
  · refine bind (ofExcept _) fun _ => ?_
    split
    · exact pure _
    · exact throw _

/-! ## Expressions -/

mutual

theorem expr (hh : h.IsOblivious free) (env : Env) : (e : Expr) → env.Spares free e.assigned →
    Oblivious free (Eval.expr h env e)
  | .name id, _ => by
      rw [Eval.expr]
      exact load env id
  | .literal v, _ => by
      rw [Eval.expr]
      exact pure _
  | .unary op e, hs => by
      rw [Eval.expr]
      exact bind (expr hh env e hs) fun _ => ofExcept _
  | .binary op l r, hs => by
      rw [Eval.expr]
      exact bind (expr hh env l hs.left) fun _ => bind (expr hh env r hs.right) fun _ => ofExcept _
  | .logical op es, hs => by
      rw [Eval.expr]
      exact logical hh env op es hs
  | .compare e links, hs => by
      rw [Eval.expr]
      exact bind (expr hh env e hs.left) fun v => chain hh env e v links hs.right
  | .ifElse t b o, hs => by
      rw [Eval.expr]
      exact bind (expr hh env t hs.left.left) fun _ =>
        ite (expr hh env b hs.left.right) (expr hh env o hs.right)
  | .lambda ps body, hs => by
      rw [Eval.expr]
      exact bind (defaults hh env _ ps hs) fun _ => bind (defaults hh env _ ps hs) fun _ =>
        bind newClosure fun _ => pure _
  | .call f args, hs => by
      rw [Eval.expr]
      exact bind (expr hh env f hs.left) fun fv =>
        bind (arguments hh env fv _ {} args hs.right) fun a => hh.call fv a
  | .attribute e name, hs => by
      rw [Eval.expr]
      exact bind (expr hh env e hs) fun _ => ofExcept _
  | .subscript e i, hs => by
      rw [Eval.expr]
      exact bind (expr hh env e hs.left) fun _ => bind (expr hh env i hs.right) fun _ => ofExcept _
  | .slice lo hi step, hs => by
      rw [Eval.expr]
      exact bind (option hh env lo hs.left.left) fun _ => bind (option hh env hi hs.left.right)
        fun _ => bind (option hh env step hs.right) fun _ => pure _
  | .display kind es, hs => by
      rw [Eval.expr.eq_def]
      cases kind with
      | tuple => exact bind (spread hh env _ es hs) fun _ => pure _
      | list => exact bind (spread hh env _ es hs) fun _ => pure _
      | set =>
          exact bind (spread hh env _ es hs) fun _ => bind (ofExcept _) fun _ => pure _
  | .dict items, hs => by
      rw [Eval.expr]
      exact bind (entries hh env [] items hs) fun _ => pure _
  | .starred e, hs => by
      rw [Eval.expr]
      exact expr hh env e hs
  | .comprehension kind e v [], hs => by
      rw [Eval.expr]
      exact throw _
  | .comprehension kind e v (.mk asynchronous target iterable tests :: rest), hs => by
      rw [Eval.expr]
      have hiterable : env.Spares free iterable.assigned :=
        hs.right.left.left.right
      -- the first iterable is evaluated at once, and all else in a frame of its own
      refine bind (expr hh env iterable hiterable) fun source => bind (iterator source) fun id =>
        newFrame_bind [] fun frame hframe => ?_
      exact bind (newIterator ⟨hframe, hs.comprehension _ _ _⟩) fun _ => collect hh kind _
  | .assign target e, hs => by
      rw [Eval.expr]
      have he : env.Spares free e.assigned := hs.mono (List.subset_cons_self target _)
      exact bind (expr hh env e he) fun v =>
        bind (store hs (List.mem_cons_self ..) v) fun _ => pure _
  | .await e, hs => by
      rw [Eval.expr]
      exact throw _

theorem option (hh : h.IsOblivious free) (env : Env) : (e? : Option Expr) →
    env.Spares free (assignedOfOption e?) → Oblivious free (Eval.option h env e?)
  | none, _ => pure _
  | some e, hs => expr hh env e hs

theorem logical (hh : h.IsOblivious free) (env : Env) (op : LogicalOp) : (es : List Expr) →
    env.Spares free (assignedOfExprs es) → Oblivious free (Eval.logical h env op es)
  | [], _ => pure _
  | [e], hs => by
      rw [Eval.logical]
      exact expr hh env e hs.left
  | e :: e' :: es, hs => by
      rw [Eval.logical]
      · exact bind (expr hh env e hs.left) fun _ =>
          ite (pure _) (logical hh env op (e' :: es) hs.right)
      · simp

theorem chain (hh : h.IsOblivious free) (env : Env) (first : Expr) (left : Value) :
    (links : List Link) → env.Spares free (assignedOfLinks links) →
    Oblivious free (Eval.chain h env first left links)
  | [], _ => pure _
  | .mk op e :: links, hs => by
      rw [Eval.chain]
      exact bind (expr hh env e hs.left) fun right => bind (compare hh op first e left right)
        fun _ => ite (chain hh env e right links hs.right) (pure _)

theorem defaults (hh : h.IsOblivious free) (env : Env) (pick : ParamKind → Bool) :
    (ps : List Param) → env.Spares free (assignedOfParams ps) →
    Oblivious free (Eval.defaults h env pick ps)
  | [], _ => pure _
  | .mk kind name (some e) :: ps, hs => by
      rw [Eval.defaults]
      refine ite ?_ (defaults hh env pick ps hs.right)
      exact bind (expr hh env e hs.left) fun _ => bind (defaults hh env pick ps hs.right)
        fun _ => pure _
  | .mk kind name none :: ps, hs => by
      rw [Eval.defaults]
      exact defaults hh env pick ps hs.right

theorem arguments (hh : h.IsOblivious free) (env : Env) (function : Value) (fault : String → Fault)
    (a : Arguments) : (args : List Argument) → env.Spares free (assignedOfArguments args) →
    Oblivious free (Eval.arguments h env function fault a args)
  | [], _ => pure _
  | .positional e :: args, hs => by
      have he := expr hh env e hs.left
      have hrest (a : Arguments) := arguments hh env function fault a args hs.right
      -- a starred argument is spread, any other is one value
      cases e with
      | starred e =>
          rw [Eval.expr] at he
          rw [Eval.arguments]
          exact bind he fun v => bind (starredElements hh fault v) fun vs => hrest _
      | _ =>
          rw [Eval.arguments]
          · exact bind he fun _ => hrest _
          · simp
  | .keyword name e :: args, hs => by
      rw [Eval.arguments]
      exact bind (expr hh env e hs.left) fun _ => bind (ofExcept _) fun _ =>
        arguments hh env function fault _ args hs.right
  | .spread e :: args, hs => by
      rw [Eval.arguments]
      exact bind (expr hh env e hs.left) fun _ => bind (ofExcept _) fun _ =>
        arguments hh env function fault _ args hs.right

theorem spread (hh : h.IsOblivious free) (env : Env) (fault : String → Fault) :
    (es : List Expr) → env.Spares free (assignedOfExprs es) →
    Oblivious free (Eval.spread h env fault es)
  | [], _ => pure _
  | e :: es, hs => by
      have he := expr hh env e hs.left
      have hrest := spread hh env fault es hs.right
      -- Only a starred item is spread; the other branch is one for all other forms.
      cases e with
      | starred e =>
          rw [Eval.expr] at he
          rw [Eval.spread]
          exact bind he fun v => bind (starredElements hh fault v) fun _ =>
            bind hrest fun _ => pure _
      | _ =>
          rw [Eval.spread]
          · exact bind he fun _ => bind hrest fun _ => pure _
          · simp

theorem entries (hh : h.IsOblivious free) (env : Env) (done : List (Value × Value)) :
    (items : List DictItem) → env.Spares free (assignedOfItems items) →
    Oblivious free (Eval.entries h env done items)
  | [], _ => pure _
  | .entry k v :: items, hs => by
      rw [Eval.entries]
      exact bind (expr hh env k hs.left.left) fun _ => bind (expr hh env v hs.left.right) fun _ =>
        bind (ofExcept _) fun done => entries hh env done items hs.right
  | .spread e :: items, hs => by
      rw [Eval.entries]
      exact bind (expr hh env e hs.left) fun _ => bind (bind (ofExcept _) fun _ => pure _)
        fun done => entries hh env done items hs.right

end

/-! ## Comprehensions -/

mutual

theorem bindTarget (hh : h.IsOblivious free) (env : Env) {frame : Nat}
    (hf : frame ≠ Program.mainFrame) : (target : Expr) → (v : Value) →
    env.Spares free target.assigned → Oblivious free (Eval.bind h env frame target v)
  | .name id, v, _ => by
      rw [Eval.bind]
      exact setVariable hf id v
  | .starred e, v, hs => by
      rw [Eval.bind]
      exact bindTarget hh env hf e v hs
  | .display kind es, v, hs => by
      rw [Eval.bind]
      exact bind (starredElements hh _ v) fun _ => bind (ofExcept _) fun vs =>
        bindTargets hh env hf es vs hs
  | .attribute e name, v, hs => by
      rw [Eval.bind]
      exact bind (expr hh env e hs) fun _ => throw _
  | .subscript e i, v, hs => by
      rw [Eval.bind]
      exact bind (expr hh env e hs.left) fun _ => bind (expr hh env i hs.right) fun _ => throw _
  | .literal _, _, _ | .unary .., _, _ | .binary .., _, _ | .logical .., _, _ | .compare .., _, _
  | .ifElse .., _, _ | .lambda .., _, _ | .call .., _, _ | .slice .., _, _ | .dict _, _, _
  | .comprehension .., _, _ | .assign .., _, _ | .await _, _, _ => by
      rw [Eval.bind]
      · exact throw _
      -- nothing else is a target
      all_goals simp

theorem bindTargets (hh : h.IsOblivious free) (env : Env) {frame : Nat}
    (hf : frame ≠ Program.mainFrame) : (targets : List Expr) → (vs : List Value) →
    env.Spares free (assignedOfExprs targets) → Oblivious free (Eval.bindAll h env frame targets vs)
  | e :: es, v :: vs, hs => by
      rw [Eval.bindAll]
      exact bind (bindTarget hh env hf e v hs.left) fun _ => bindTargets hh env hf es vs hs.right
  | [], _, _ => by
      rw [Eval.bindAll]
      · exact pure ()
      · simp
  | _ :: _, [], _ => by
      rw [Eval.bindAll]
      · exact pure ()
      · simp

end

theorem testsHold (hh : h.IsOblivious free) (env : Env) (tests : List Expr)
    (hs : env.Spares free (assignedOfExprs tests)) :
    Oblivious free (Eval.testsHold h env tests) := by
  induction tests with
  | nil => exact pure true
  | cons e es ih =>
      rw [Eval.testsHold]
      exact bind (expr hh env e hs.left) fun _ => ite (ih hs.right) (pure false)

/-- What a clause assigns is among what all clauses assign. -/
theorem assigned_subset_of_getElem? {cs : List Clause} {i : Nat} {asynchronous : Bool}
    {target iterable : Expr} {tests : List Expr}
    (hc : cs[i]? = some (.mk asynchronous target iterable tests)) :
    target.assigned ++ iterable.assigned ++ assignedOfExprs tests ⊆ assignedOfClauses cs := by
  induction cs generalizing i with
  | nil => simp at hc
  | cons c cs ih =>
      cases i with
      | zero =>
          obtain rfl : c = .mk asynchronous target iterable tests := by simpa using hc
          rw [assignedOfClauses]
          exact List.subset_append_left _ _
      | succ i =>
          obtain ⟨_, _, _, _⟩ := c
          rw [assignedOfClauses]
          exact List.Subset.trans (ih (by simpa using hc)) (List.subset_append_right _ _)

/-- A comprehension that goes on is still the same. -/
theorem isApart_of_resume (fuel : Nat) (g : Generator) (hg : g.IsApart free) :
    Yields (Eval.resume h fuel g) fun r => r.2.IsApart free := by
  induction fuel generalizing g with
  | zero => exact .throw _ _
  | succ fuel ih =>
      rw [Eval.resume]
      split
      · exact .pure hg
      · -- A round changes what is entered, and never the scopes of the comprehension.
        rename_i source outer _
        refine .bind fun item => ?_
        split
        · exact ih _ hg
        · exact ih _ hg
        · refine .bind fun _ => .bind fun holds => ?_
          split
          · split
            · exact .bind fun _ => .bind fun _ => ih _ hg
            · refine .bind fun v => ?_
              split
              · exact .bind fun _ => .pure hg
              · exact .pure hg
          · exact ih _ hg

theorem resume (hh : h.IsOblivious free) (fuel : Nat) (g : Generator) (hg : g.IsApart free) :
    Oblivious free (Eval.resume h fuel g) := by
  have helement : g.env.Spares free g.element.assigned := hg.2.left.left
  have hvalue : g.env.Spares free (assignedOfOption g.value) := hg.2.left.right
  have hclauses : g.env.Spares free (assignedOfClauses g.clauses) := hg.2.right
  induction fuel generalizing g with
  | zero => exact throw _
  | succ fuel ih =>
      rw [Eval.resume]
      split
      · exact pure _
      · rename_i source outer _
        refine bind (hh.next source) fun item => ?_
        split
        · exact ih _ hg helement hvalue hclauses
        · exact ih _ hg helement hvalue hclauses
        · rename_i item _ target _ tests hc
          have hclause := hclauses.mono (assigned_subset_of_getElem? hc)
          -- an item is bound and tested, and then the next clause begins or the element is due
          refine bind (bindTarget hh g.env hg.1 target item hclause.left.left) fun _ =>
            bind (testsHold hh g.env tests hclause.right) fun holds =>
              ite ?_ (ih g hg helement hvalue hclauses)
          split
          · rename_i iterable _ hc'
            have hclause' := hclauses.mono (assigned_subset_of_getElem? hc')
            exact bind (expr hh g.env iterable hclause'.left.right) fun v =>
              bind (iterator v) fun inner => ih _ hg helement hvalue hclauses
          · refine bind (expr hh g.env g.element helement) fun v => ?_
            split
            · rename_i e he
              rw [he] at hvalue
              exact bind (expr hh g.env e hvalue) fun _ => pure _
            · exact pure _

/-! ## Iterators and calls -/

theorem checkEnded (hh : h.IsOblivious free) (ids : List Nat) (position : Nat) :
    Oblivious free (nextOfAll.checkEnded h position ids) := by
  induction ids generalizing position with
  | nil => exact pure ()
  | cons id ids ih =>
      rw [nextOfAll.checkEnded]
      refine bind (hh.next id) fun item => ?_
      cases item with
      | none => exact ih _
      | some v => exact throw _

theorem nextOfAll (hh : h.IsOblivious free) (strict : Bool) (done : List Value) (ids : List Nat) :
    Oblivious free (Eval.nextOfAll h strict done ids) := by
  induction ids generalizing done with
  | nil => exact pure _
  | cons id ids ih =>
      rw [Eval.nextOfAll]
      refine bind (hh.next id) fun item => ?_
      cases item with
      | none => exact check _ fun _ => ite (bind (checkEnded hh ids 2) fun _ => pure _) (pure _)
      | some v => exact ih _

theorem next (hh : h.IsOblivious free) (id : Nat) : Oblivious free (Eval.next h id) := by
  unfold Eval.next
  refine get_bind (fun m hm => ?_) fun m F out => rfl
  split
  · exact pure _
  · exact pure _
  · exact bind (setIterator id trivial) fun _ => pure _
  · exact pure _
  · exact bind (setIterator id trivial) fun _ => pure _
  · refine bind (hh.next _) fun item => ?_
    split
    · exact pure _
    · exact bind (setIterator id trivial) fun _ => pure _
  · exact ite (pure _) (map _ (nextOfAll hh _ _ _))
  · -- The comprehension is apart when it is taken out, so it may be put back as it is left.
    rename_i g hg
    have hapart : g.IsApart free := hm.iterators id _ hg
    refine bind_of_yields (resume hh _ g hapart) (isApart_of_resume _ g hapart) ?_
    exact fun r hr => bind (setIterator id hr) fun _ => pure _

theorem call (hh : h.IsOblivious free) (f : Value) (a : Arguments) :
    Oblivious free (Eval.call h f a) := by
  unfold Eval.call
  split
  · refine bind (ofExcept _) fun bound => newFrame_bind bound fun frame hframe => ?_
    exact expr hh _ _ (.function hframe _ _ _ _)
  · exact ofExcept _
  · exact callBuiltin hh _ a
  · exact callType hh _ a
  · exact callOutputMethod hh _ a
  · exact callMethod hh _ _ a
  · exact callDescriptor hh _ _ a
  · exact callMember hh _ _ a
  · exact throw _

/-- The evaluator is oblivious at every depth of calls. -/
theorem hooks (depth : Nat) : (Eval.hooks depth).IsOblivious free := by
  induction depth with
  | zero => exact ⟨fun _ _ => throw _, fun _ => throw _⟩
  | succ depth ih => exact ⟨call ih, next ih⟩

end Eval.Oblivious

end Curly
