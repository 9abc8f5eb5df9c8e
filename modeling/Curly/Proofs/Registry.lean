import Curly.Proofs.Except
import Curly.Proofs.Value.Key
import Curly.Registry

/-!
What a registry holds after any calls in a row. A call that fails changes nothing, and a call on one
name changes nothing under another one. What is mounted under a name therefore goes back to the last
successful mount of the name: it has that template, and its data are those of the mount with the
data of every later successful update laid over them. Its text is what the template makes of these
data.
-/

namespace Curly

/-- The entries of data that are a dictionary, and none of other data. -/
def Value.entries : Value → List (Value × Value)
  | .dict entries => entries
  | _ => []

/-- Data that are a dictionary or are missing. -/
def Value.IsContext (context : Value) : Prop := context = .none ∨ ∃ entries, context = .dict entries

namespace Registry

/-! ### What is mounted under a name -/

variable {r after : Registry} {name other : String} {m : Mounted}

theorem lookup_cons_eq (n : String) (m : Mounted) (mounts : List (String × Mounted)) :
    ((n, m) :: mounts).lookup other = if other = n then some m else mounts.lookup other := by
  rw [List.lookup_cons]
  by_cases h : other = n
  · simp [h]
  · simp [beq_false_of_ne h, h]

theorem lookup_putAmong (mounts : List (String × Mounted)) :
    (putAmong name m mounts).lookup other =
      if other = name then some m else mounts.lookup other := by
  induction mounts with
  | nil => rw [putAmong, lookup_cons_eq]
  | cons entry rest ih =>
    obtain ⟨n, old⟩ := entry
    by_cases hn : n = name
    · subst hn
      rw [putAmong, if_pos (beq_self_eq_true n), lookup_cons_eq, lookup_cons_eq]
      split <;> rfl
    · rw [putAmong, if_neg (by simpa using hn), lookup_cons_eq, lookup_cons_eq, ih]
      -- A place under `n` hides nothing that is looked up under `name`.
      by_cases h : other = n
      · rw [if_pos h, if_neg (h ▸ hn), if_pos h]
      · rw [if_neg h, if_neg h]

theorem lookup_filter_ne (mounts : List (String × Mounted)) :
    (mounts.filter fun (n, _) => n != name).lookup other =
      if other = name then none else mounts.lookup other := by
  induction mounts with
  | nil => simp
  | cons entry rest ih =>
    obtain ⟨n, old⟩ := entry
    by_cases hn : n = name
    · rw [List.filter_cons_of_neg (by simpa using hn), ih, lookup_cons_eq, hn]
      split <;> rfl
    · rw [List.filter_cons_of_pos (by simpa using hn), lookup_cons_eq, lookup_cons_eq, ih]
      by_cases h : other = n
      · rw [if_pos h, if_neg (h ▸ hn), if_pos h]
      · rw [if_neg h, if_neg h]

@[simp] theorem get?_put :
    (r.put name m).get? other = if other = name then some m else r.get? other :=
  lookup_putAmong r.mounts

@[simp] theorem get?_unmount :
    (r.unmount name).get? other = if other = name then none else r.get? other :=
  lookup_filter_ne r.mounts

@[simp] theorem get?_empty : ({} : Registry).get? name = none := rfl

/-! ### What one call does -/

namespace Call

/-- The name that a call is on. -/
def name? : Call → Option String
  | .mount name _ _ | .update name _ | .get name | .unmount name => some name
  | .render _ _ | .compile _ | .clear | .names => none

/-- Whether the data of a call are a dictionary or are missing. -/
def HasContext : Call → Prop
  | .mount _ _ context | .update _ context | .render _ context => context.IsContext
  | .compile _ | .get _ | .unmount _ | .clear | .names => True

/-- Whether a call, if it succeeds, does away with what was mounted under a name. -/
def Replaces (name : String) : Call → Prop
  | .mount n _ _ | .unmount n => n = name
  | .clear => True
  | .update _ _ | .render _ _ | .compile _ | .get _ | .names => False

/-- The data that a call lays over those of the template under a name. -/
def laidOver (name : String) : Call → Option (List (Value × Value))
  | .update n context => if n = name then some context.entries else none
  | _ => none

end Call

theorem mount_of_isContext {template context : Value} (hc : context.IsContext) :
    r.mount name template context = do
      let text ← (templateText template).mapError (.rendering ∘ .template ∘ .syntactic)
      let output ← (render text (.dict context.entries)).mapError .rendering
      return (r.put name ⟨text, context.entries, output⟩, output) := by
  obtain rfl | ⟨entries, rfl⟩ := hc
  · rfl
  · cases entries <;> rfl

theorem update_of_isContext {context : Value} (hc : context.IsContext) (hm : r.get? name = some m) :
    r.update name context = do
      let entries := Value.merge m.context context.entries
      let output ← (render m.template (.dict entries)).mapError .rendering
      return (r.put name ⟨m.template, entries, output⟩, output) := by
  rw [update, hm]
  obtain rfl | ⟨entries, rfl⟩ := hc
  · rfl
  · cases entries <;> rfl

/-- A mount that succeeds stores the template, the data and the text that they make. -/
theorem mount_eq_ok {template context : Value} {output : String} (hc : context.IsContext)
    (h : r.mount name template context = .ok (after, output)) :
    ∃ text, template = .str text ∧ render text (.dict context.entries) = .ok output ∧
      after = r.put name ⟨text, context.entries, output⟩ := by
  rw [mount_of_isContext hc] at h
  obtain ⟨text, ht, h⟩ := Except.bind_eq_ok_iff.mp h
  obtain ⟨result, hr, h⟩ := Except.bind_eq_ok_iff.mp h
  rw [Except.mapError_eq_ok_iff] at ht hr
  obtain ⟨rfl, rfl⟩ := Prod.mk.inj (Except.ok.inj h)
  refine ⟨text, ?_, hr, rfl⟩
  cases template <;> simp_all [templateText]

/-- An update that succeeds is of a mounted template, and stores the data that it has now and the
text that they make. -/
theorem update_eq_ok {context : Value} {output : String} (hc : context.IsContext)
    (h : r.update name context = .ok (after, output)) :
    ∃ m, r.get? name = some m ∧
      render m.template (.dict (Value.merge m.context context.entries)) = .ok output ∧
      after = r.put name ⟨m.template, Value.merge m.context context.entries, output⟩ := by
  cases hm : r.get? name with
  | none => simp [update, hm, throw, throwThe, MonadExceptOf.throw] at h
  | some m =>
    rw [update_of_isContext hc hm] at h
    obtain ⟨result, hr, h⟩ := Except.bind_eq_ok_iff.mp h
    rw [Except.mapError_eq_ok_iff] at hr
    obtain ⟨rfl, rfl⟩ := Prod.mk.inj (Except.ok.inj h)
    exact ⟨m, rfl, hr, rfl⟩

/-- A call that fails leaves the registry as it was. -/
theorem perform_of_error {c : Call} {e : MountFailure} (h : (r.perform c).2 = .error e) :
    (r.perform c).1 = r := by
  cases c with
  | mount name template context =>
    cases hm : r.mount name template context <;> simp_all [perform, settle]
  | update name context => cases hm : r.update name context <;> simp_all [perform, settle]
  | render | compile | get | names => rfl
  | unmount | clear => cases h

theorem settle_eq_ok {result : Except MountFailure (Registry × String)} {reply : Reply}
    (h : r.settle result = (after, .ok reply)) : ∃ output, result = .ok (after, output) := by
  cases result with
  | error e => cases h
  | ok pair =>
    obtain ⟨rfl, -⟩ := Prod.mk.inj h
    exact ⟨pair.2, rfl⟩

/-- A call that succeeds leaves what is under another name than its own as it was. -/
theorem get?_of_perform {c : Call} {reply : Reply} (hx : c.HasContext)
    (hp : r.perform c = (after, .ok reply)) (hc : c ≠ .clear) (hn : c.name? ≠ some other) :
    after.get? other = r.get? other := by
  cases c with
  -- a call that changes the registry changes what is under its own name; the others change nothing
  | mount name template context =>
    have hne : other ≠ name := fun h => hn (congrArg some h.symm)
    obtain ⟨output, hm⟩ := settle_eq_ok hp
    obtain ⟨text, -, -, rfl⟩ := mount_eq_ok hx hm
    rw [get?_put, if_neg hne]
  | update name context =>
    have hne : other ≠ name := fun h => hn (congrArg some h.symm)
    obtain ⟨output, hm⟩ := settle_eq_ok hp
    obtain ⟨m, -, -, rfl⟩ := update_eq_ok hx hm
    rw [get?_put, if_neg hne]
  | unmount name =>
    have hne : other ≠ name := fun h => hn (congrArg some h.symm)
    obtain ⟨rfl, -⟩ := Prod.mk.inj hp
    rw [get?_unmount, if_neg hne]
  | clear => exact absurd rfl hc
  | render | compile | get | names =>
    obtain ⟨rfl, -⟩ := Prod.mk.inj hp
    rfl

/-- A call on one name leaves what is under another name as it was. -/
theorem get?_perform_of_ne {c : Call} (hx : c.HasContext) (hc : c ≠ .clear)
    (hn : c.name? ≠ some other) : (r.perform c).1.get? other = r.get? other := by
  cases hp : (r.perform c).2 with
  | error e => rw [perform_of_error hp]
  | ok reply => exact get?_of_perform hx (Prod.ext rfl hp) hc hn

/-! ### Calls in a row -/

/-- The registry after calls in a row. -/
def performAll (r : Registry) (calls : List Call) : Registry :=
  calls.foldl (fun r c => (r.perform c).1) r

/-- The calls among calls in a row that succeed. -/
def successes (r : Registry) : List Call → List Call
  | [] => []
  | c :: rest =>
    match r.perform c with
    | (after, .ok _) => c :: successes after rest
    | (after, .error _) => successes after rest

theorem successes_of_ok {c : Call} {rest : List Call} {reply : Reply}
    (h : (r.perform c).2 = .ok reply) :
    r.successes (c :: rest) = c :: (r.perform c).1.successes rest := by
  have hp : r.perform c = ((r.perform c).1, .ok reply) := Prod.ext rfl h
  rw [successes, hp]

theorem successes_of_error {c : Call} {rest : List Call} {e : MountFailure}
    (h : (r.perform c).2 = .error e) : r.successes (c :: rest) = r.successes rest := by
  have hp : r.perform c = (r, .error e) := Prod.ext (perform_of_error h) h
  rw [successes, hp]

/-- What is under a name goes back to successful calls: to a mount of its template after which the
name was neither mounted again nor taken away, and to the data of the mount with those of the
updates behind it laid over them in order. -/
def GoesBack (name : String) (m : Mounted) (history : List Call) : Prop :=
  ∃ before context after,
    history = before ++ .mount name (.str m.template) context :: after ∧
    (∀ c ∈ after, ¬ c.Replaces name) ∧
    m.context = (after.filterMap (Call.laidOver name)).foldl Value.merge context.entries

/-- A registry is what successful calls make of an empty one. -/
def Reflects (r : Registry) (history : List Call) : Prop :=
  ∀ name m, r.get? name = some m →
    GoesBack name m history ∧ render m.template (.dict m.context) = .ok m.output

/-- What goes back to some calls goes back to one more, if that is no update of the name and does
not replace what is there. -/
theorem GoesBack.append {history : List Call} {c : Call} (h : GoesBack name m history)
    (hr : ¬ c.Replaces name) (hl : c.laidOver name = none) : GoesBack name m (history ++ [c]) := by
  obtain ⟨before, context, after, rfl, ha, hm⟩ := h
  refine ⟨before, context, after ++ [c], by simp, ?_, ?_⟩
  · intro d hd
    obtain hd | hd := List.mem_append.mp hd
    · exact ha d hd
    · rw [List.mem_singleton.mp hd]
      exact hr
  · rw [List.filterMap_append, List.filterMap_cons_none hl, List.filterMap_nil, List.append_nil]
    exact hm

/-- An update lays its data over those that what it is of goes back to. -/
theorem GoesBack.update {history : List Call} {context : Value} (output : String)
    (h : GoesBack name m history) :
    GoesBack name ⟨m.template, Value.merge m.context context.entries, output⟩
      (history ++ [.update name context]) := by
  obtain ⟨before, first, after, rfl, ha, hm⟩ := h
  refine ⟨before, first, after ++ [.update name context], by simp, ?_, ?_⟩
  · intro d hd
    obtain hd | hd := List.mem_append.mp hd
    · exact ha d hd
    · rw [List.mem_singleton.mp hd]
      exact id
  · simp [Call.laidOver, hm]

theorem goesBack_mount (history : List Call) (text output : String) (context : Value) :
    GoesBack name ⟨text, context.entries, output⟩ (history ++ [.mount name (.str text) context]) :=
  ⟨history, context, [], rfl, by simp, rfl⟩

/-- A call that succeeds becomes the last one that the registry reflects. -/
theorem Reflects.perform {history : List Call} {c : Call} {reply : Reply} (h : r.Reflects history)
    (hx : c.HasContext) (hp : r.perform c = (after, .ok reply)) :
    after.Reflects (history ++ [c]) := by
  intro other m hm
  -- What the call is not on goes back to the same calls, and has the same text.
  have hold (hr : ¬ c.Replaces other) (hl : c.laidOver other = none)
      (hm : r.get? other = some m) :
      GoesBack other m (history ++ [c]) ∧ render m.template (.dict m.context) = .ok m.output :=
    ⟨(h other m hm).1.append hr hl, (h other m hm).2⟩
  cases c with
  | mount name template context =>
    obtain ⟨output, hr⟩ := settle_eq_ok hp
    obtain ⟨text, rfl, ho, rfl⟩ := mount_eq_ok hx hr
    rw [get?_put] at hm
    split at hm
    case isTrue hn =>
      cases hm
      exact ⟨hn ▸ goesBack_mount history text output context, ho⟩
    case isFalse hn => exact hold (fun hr => hn hr.symm) rfl hm
  | update name context =>
    obtain ⟨output, hr⟩ := settle_eq_ok hp
    obtain ⟨old, hg, ho, rfl⟩ := update_eq_ok hx hr
    rw [get?_put] at hm
    split at hm
    case isTrue hn =>
      cases hm
      exact ⟨hn ▸ (h name old hg).1.update output, ho⟩
    case isFalse hn => exact hold id (if_neg fun he => hn he.symm) hm
  | unmount name =>
    obtain ⟨rfl, -⟩ := Prod.mk.inj hp
    rw [get?_unmount] at hm
    split at hm
    case isTrue => cases hm
    case isFalse hn => exact hold (fun hr => hn hr.symm) rfl hm
  | clear =>
    obtain ⟨rfl, -⟩ := Prod.mk.inj hp
    cases hm
  | render | compile | get | names =>
    obtain ⟨rfl, -⟩ := Prod.mk.inj hp
    exact hold id rfl hm

/-- Calls in a row leave a registry that reflects those of them that succeed. -/
theorem Reflects.performAll {history : List Call} (h : r.Reflects history) (calls : List Call)
    (hx : ∀ c ∈ calls, c.HasContext) :
    (r.performAll calls).Reflects (history ++ r.successes calls) := by
  induction calls generalizing r history with
  | nil => rwa [successes, List.append_nil]
  | cons c rest ih =>
    have hrest : ∀ d ∈ rest, d.HasContext := fun d hd => hx d (List.mem_cons_of_mem c hd)
    show ((r.perform c).1.performAll rest).Reflects _
    cases hp : (r.perform c).2 with
    | error e =>
      rw [perform_of_error hp, successes_of_error hp]
      exact ih h hrest
    | ok reply =>
      have hs := h.perform (hx c List.mem_cons_self) (Prod.ext rfl hp)
      rw [successes_of_ok hp, List.append_cons]
      exact ih hs hrest

theorem reflects_empty : ({} : Registry).Reflects [] := by
  intro name m hm
  cases hm

end Registry
end Curly
