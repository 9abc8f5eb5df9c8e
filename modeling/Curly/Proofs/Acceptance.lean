import Curly.Proofs.Registry
import Mathlib.Data.List.Forall2

/-!
Which data the calls of a registry take. Rendering takes a dictionary or nothing and refuses all
else as no mapping. What mounts and updates are given is made a dictionary first: data that count as
false stand for none, and a mount also takes pairs for the dictionary that they make. What cannot be
made a dictionary is refused as it fails there, and nothing that they are given is refused as no
mapping. A call that refuses its data leaves the registry as it was.
-/

namespace Curly

/-! ### Dictionaries that are made of values -/

/-- Faults of conversion: of a wrong type, or of a wrong length. -/
def Fault.IsConversion (f : Fault) : Prop :=
  f.faultClass = .typeError ∨ f.faultClass = .valueError

namespace Value

variable {v : Value} {entries after : List (Value × Value)}

/-- A pair has two elements, of which the first can be a key. -/
def IsPair (v : Value) (entry : Value × Value) : Prop :=
  v.elements? = some [entry.1, entry.2] ∧ entry.1.unhashable? = Option.none

/-- What is no dictionary and has pairs for elements. -/
def ArePairs (v : Value) (pairs : List (Value × Value)) : Prop :=
  v.isDict = false ∧ ∃ vs, v.elements? = some vs ∧ List.Forall₂ IsPair vs pairs

theorem addPair_eq_ok_iff {i : Nat} :
    addPair entries (v, i) = .ok after ↔
      ∃ entry, v.IsPair entry ∧ after = insert entry.1 entry.2 entries := by
  rw [addPair]
  split
  case h_1 key value hvs =>
    -- of two elements the first has to be a key
    split
    case h_1 t ht =>
      refine ⟨nofun, ?_⟩
      rintro ⟨entry, ⟨hentry, hkey⟩, -⟩
      have hvs' : [key, value] = [entry.1, entry.2] := Option.some.inj (hvs.symm.trans hentry)
      rw [List.cons.inj hvs' |>.1, hkey] at ht
      cases ht
    case h_2 hkey =>
      constructor
      · intro h
        exact ⟨(key, value), ⟨hvs, hkey⟩, (Except.ok.inj h).symm⟩
      · rintro ⟨entry, ⟨hentry, -⟩, rfl⟩
        have hvs' : some [key, value] = some [entry.1, entry.2] := hvs.symm.trans hentry
        cases hvs'
        rfl
  case h_2 vs hne hvs =>
    -- other elements than two are no pair
    refine ⟨nofun, ?_⟩
    rintro ⟨entry, ⟨hentry, -⟩, -⟩
    exact absurd (Option.some.inj (hvs.symm.trans hentry)) (hne _ _)
  case h_3 hvs =>
    -- neither is what has no elements
    refine ⟨nofun, ?_⟩
    rintro ⟨entry, ⟨hentry, -⟩, -⟩
    cases hvs.symm.trans hentry

/-- Values are added to a dictionary in turn if they are pairs, and only then. -/
theorem foldlM_addPair_eq_ok_iff {vs : List Value} {i : Nat} :
    (vs.zipIdx i).foldlM addPair entries = .ok after ↔
      ∃ pairs, List.Forall₂ IsPair vs pairs ∧ after = merge entries pairs := by
  -- on the values, for any entries in front of them and any number of the first one
  induction vs generalizing i entries with
  | nil =>
    constructor
    · intro h
      exact ⟨[], .nil, (Except.ok.inj h).symm⟩
    · rintro ⟨pairs, hpairs, rfl⟩
      cases hpairs
      rfl
  | cons v vs ih =>
    rw [List.zipIdx_cons, List.foldlM_cons]
    refine Except.bind_eq_ok_iff.trans ?_
    simp only [addPair_eq_ok_iff, ih]
    constructor
    · rintro ⟨_, ⟨entry, hentry, rfl⟩, pairs, hpairs, rfl⟩
      exact ⟨entry :: pairs, .cons hentry hpairs, rfl⟩
    · rintro ⟨_, hpairs, rfl⟩
      cases hpairs with
      | cons hentry hpairs => exact ⟨_, ⟨_, hentry, rfl⟩, _, hpairs, rfl⟩

theorem spread_eq_ok_iff : v.spread = .ok entries ↔ v = .dict entries := by
  cases v with
  | object fields =>
    rw [spread]
    split <;> simp
  | _ => simp [spread]

theorem failsBy_spread (v : Value) : v.spread.FailsBy (·.faultClass = .typeError) := by
  cases v with
  | dict entries => exact .of_ok entries
  | object fields =>
    rw [spread]
    split <;> exact .of_error rfl
  | _ => exact .of_error rfl

/-- Elements are put into a dictionary in turn. -/
theorem toEntries_of_elements? (hv : v.isDict = false) {vs : List Value}
    (hvs : v.elements? = some vs) : v.toEntries = vs.zipIdx.foldlM addPair [] := by
  cases v with
  | dict entries => cases hv
  | object fields => cases hvs
  | _ => simp only [toEntries, spread, hvs]

/-- What is no dictionary makes one if it has pairs for elements, and only then. -/
theorem toEntries_eq_ok_iff (hv : v.isDict = false) :
    v.toEntries = .ok entries ↔ ∃ pairs, v.ArePairs pairs ∧ entries = merge [] pairs := by
  cases hvs : v.elements? with
  | some vs =>
    rw [toEntries_of_elements? hv hvs, foldlM_addPair_eq_ok_iff]
    constructor
    · rintro ⟨pairs, hpairs, rfl⟩
      exact ⟨pairs, ⟨hv, vs, hvs, hpairs⟩, rfl⟩
    · rintro ⟨pairs, ⟨-, vs', hvs', hpairs⟩, rfl⟩
      cases hvs.symm.trans hvs'
      exact ⟨pairs, hpairs, rfl⟩
  | none =>
    -- what has no elements would have to be spread, and only a dictionary can be
    have hspread : v.spread ≠ .ok entries := by
      intro h
      rw [spread_eq_ok_iff.1 h] at hv
      cases hv
    constructor
    · intro h
      rw [toEntries, hvs] at h
      split at h <;> simp_all
    · rintro ⟨pairs, ⟨-, vs, hvs', -⟩, -⟩
      cases hvs.symm.trans hvs'

theorem failsBy_addPair (pair : Value × Nat) :
    (addPair entries pair).FailsBy Fault.IsConversion := by
  rw [addPair]
  split
  case h_1 =>
    split
    · exact .of_error (.inl rfl)
    · exact .of_ok _
  case h_2 => exact .of_error (.inr rfl)
  case h_3 => exact .of_error (.inl rfl)

theorem failsBy_toEntries (v : Value) : v.toEntries.FailsBy Fault.IsConversion := by
  have hspread := failsBy_spread v
  rw [toEntries]
  split
  case h_1 es _ _ => exact .of_ok _
  case h_2 => exact .foldlM _ fun _ => failsBy_addPair
  case h_3 => exact .of_error (.inl rfl)
  case h_4 f hf _ _ => exact .of_error (.inl (hspread f hf))

/-- The entries that a mount copies: none of data that count as false. -/
def copied (v : Value) : Except Fault (List (Value × Value)) :=
  if v.isTrue then v.toEntries else .ok []

/-- The entries that an update lays over others: none of data that count as false. -/
def laidOver (v : Value) : Except Fault (List (Value × Value)) :=
  if v.isTrue then v.spread else .ok []

theorem copied_of_isContext (hv : v.IsContext) : v.copied = .ok v.entries := by
  obtain rfl | ⟨entries, rfl⟩ := hv
  · rfl
  · cases entries <;> rfl

theorem laidOver_of_isContext (hv : v.IsContext) : v.laidOver = .ok v.entries := by
  obtain rfl | ⟨entries, rfl⟩ := hv
  · rfl
  · cases entries <;> rfl

/-- Pairs that count as false are none. -/
theorem ArePairs.eq_nil {pairs : List (Value × Value)} (h : v.ArePairs pairs)
    (hv : v.isTrue = false) : pairs = [] := by
  obtain ⟨hdict, vs, hvs, hpairs⟩ := h
  have hnil : vs = [] := by
    cases v with
    | dict entries => cases hdict
    | _ => simp_all [elements?, items?, isTrue, rangeItems]
  subst hnil
  cases hpairs
  rfl

theorem ArePairs.copied {pairs : List (Value × Value)} (h : v.ArePairs pairs) :
    v.copied = .ok (merge [] pairs) := by
  rw [Value.copied]
  split
  case isTrue => exact (toEntries_eq_ok_iff h.1).2 ⟨pairs, h, rfl⟩
  case isFalse hv =>
    rw [h.eq_nil (Bool.of_not_eq_true hv)]
    rfl

/-- A mount finds nothing to copy in data that count as true and are neither a dictionary nor
pairs. -/
theorem copied_eq_error_iff :
    (∃ f, v.copied = .error f) ↔
      v.isTrue = true ∧ v.isDict = false ∧ ∀ pairs, ¬v.ArePairs pairs := by
  constructor
  · rintro ⟨f, hf⟩
    have hdict : v.isDict = false := by
      cases v with
      | dict entries => cases (copied_of_isContext (.inr ⟨entries, rfl⟩)).symm.trans hf
      | _ => rfl
    refine ⟨?_, hdict, fun pairs h => nomatch h.copied.symm.trans hf⟩
    -- what counts as false is not looked at, so it cannot fail
    by_contra hv
    rw [copied, if_neg hv] at hf
    cases hf
  · rintro ⟨hv, hdict, hpairs⟩
    rw [copied, if_pos hv]
    cases h : v.toEntries with
    | ok entries =>
      obtain ⟨pairs, hp, -⟩ := (toEntries_eq_ok_iff hdict).1 h
      exact absurd hp (hpairs pairs)
    | error f => exact ⟨f, rfl⟩

/-- An update finds nothing to lay over others in data that count as true and are no dictionary. -/
theorem laidOver_eq_error_iff :
    (∃ f, v.laidOver = .error f) ↔ v.isTrue = true ∧ v.isDict = false := by
  constructor
  · rintro ⟨f, hf⟩
    constructor
    · by_contra hv
      rw [laidOver, if_neg hv] at hf
      cases hf
    · cases v with
      | dict entries => cases (laidOver_of_isContext (.inr ⟨entries, rfl⟩)).symm.trans hf
      | _ => rfl
  · rintro ⟨hv, hdict⟩
    rw [laidOver, if_pos hv]
    cases h : v.spread with
    | ok entries =>
      rw [spread_eq_ok_iff.1 h] at hdict
      cases hdict
    | error f => exact ⟨f, rfl⟩

theorem failsBy_copied (v : Value) : v.copied.FailsBy Fault.IsConversion := by
  rw [copied]
  split
  · exact failsBy_toEntries v
  · exact .of_ok []

theorem failsBy_laidOver (v : Value) : v.laidOver.FailsBy Fault.IsConversion := by
  rw [laidOver]
  split
  · exact (failsBy_spread v).mono fun _ => .inl
  · exact .of_ok []

end Value

namespace Registry

variable {r : Registry} {name text : String} {m : Mounted} {p : Program} {context : Value}
  {entries : List (Value × Value)}

/-! ### What the calls make of their data -/

/-- A mount goes on with the entries that it copies. -/
theorem mount_eq_bind (r : Registry) (name : String) (template context : Value) :
    r.mount name template context =
      context.copied.mapError .context >>= fun es => r.mount name template (.dict es) := by
  have hdict (es : List (Value × Value)) : r.mount name template (.dict es) = _ :=
    mount_of_isContext (.inr ⟨es, rfl⟩)
  simp only [hdict, Value.entries]
  rw [mount, Value.copied]
  cases context.isTrue <;> rfl

/-- An update of what is mounted goes on with the entries that it lays over the others. -/
theorem update_eq_bind (hm : r.get? name = some m) (context : Value) :
    r.update name context =
      context.laidOver.mapError .context >>= fun es => r.update name (.dict es) := by
  have hdict (es : List (Value × Value)) : r.update name (.dict es) = _ :=
    update_of_isContext (.inr ⟨es, rfl⟩) hm
  simp only [hdict, Value.entries]
  rw [update, hm, Value.laidOver]
  cases context.isTrue <;> rfl

/-! ### Calls that refuse their data -/

/-- A call refuses its data: it fails before anything is rendered with them. -/
def Refuses (r : Registry) (c : Call) : Prop :=
  ∃ e, (r.perform c).2 = .error e ∧
    ((∃ f, e = .context f) ∨ e = .rendering (.render .notMapping))

/-- A program refuses no dictionary. -/
theorem render_dict_ne (p : Program) (entries : List (Value × Value)) :
    (p.render (.dict entries)).mapError Failure.render ≠ .error (.render .notMapping) := by
  intro h
  obtain ⟨e, h, he⟩ := Except.mapError_eq_error_iff.1 h
  obtain ⟨f, -, hf⟩ := Except.mapError_eq_error_iff.1 h
  cases he
  cases hf

/-- No template refuses a dictionary. -/
theorem render_ne (template : String) (entries : List (Value × Value)) :
    render template (.dict entries) ≠ .error (.render .notMapping) := by
  intro h
  obtain h | ⟨p, -, h⟩ := Except.bind_eq_error_iff.1 h
  · obtain ⟨e, -, he⟩ := Except.mapError_eq_error_iff.1 h
    cases he
  · exact render_dict_ne p entries h

theorem settle_eq_error {result : Except MountFailure (Registry × String)} {e : MountFailure} :
    (r.settle result).2 = .error e ↔ result = .error e := by
  cases result with
  | error e' =>
    constructor
    · exact fun h => congrArg _ (Except.error.inj h)
    · exact fun h => congrArg _ (Except.error.inj h)
  | ok pair => exact ⟨nofun, nofun⟩

/-- A mount fails on a dictionary in the template or while rendering, which are no refusals. -/
theorem not_refuses_mount (template : Value) (entries : List (Value × Value)) :
    ¬r.Refuses (.mount name template (.dict entries)) := by
  rintro ⟨e, he, hrefused⟩
  have hm := settle_eq_error.1 he
  rw [mount_of_isContext (.inr ⟨entries, rfl⟩)] at hm
  obtain hm | ⟨s, -, hm⟩ := Except.bind_eq_error_iff.1 hm
  · -- The template is at fault, and a fault of a template is no refusal.
    obtain ⟨e', -, rfl⟩ := Except.mapError_eq_error_iff.1 hm
    obtain ⟨f, hf⟩ | hf := hrefused <;> cases hf
  · obtain hm | ⟨output, -, hm⟩ := Except.bind_eq_error_iff.1 hm
    · -- Rendering is at fault, but never because the data are no dictionary.
      obtain ⟨e', hr, rfl⟩ := Except.mapError_eq_error_iff.1 hm
      obtain ⟨f, hf⟩ | hf := hrefused
      · cases hf
      · cases hf
        exact render_ne s entries hr
    · cases hm

theorem not_refuses_update (hm : r.get? name = some m) (entries : List (Value × Value)) :
    ¬r.Refuses (.update name (.dict entries)) := by
  rintro ⟨e, he, hrefused⟩
  have hu := settle_eq_error.1 he
  rw [update_of_isContext (.inr ⟨entries, rfl⟩) hm] at hu
  obtain hu | ⟨output, -, hu⟩ := Except.bind_eq_error_iff.1 hu
  · obtain ⟨e', hr, rfl⟩ := Except.mapError_eq_error_iff.1 hu
    obtain ⟨f, hf⟩ | hf := hrefused
    · cases hf
    · cases hf
      exact render_ne _ _ hr
  · cases hu

/-- What a mount copies decides whether it refuses its data. -/
theorem perform_mount (r : Registry) (name : String) (template context : Value) :
    r.perform (.mount name template context) =
      match context.copied with
      | .ok entries => r.perform (.mount name template (.dict entries))
      | .error f => (r, .error (.context f)) := by
  rw [perform, mount_eq_bind]
  cases context.copied <;> rfl

/-- What an update lays over other data decides whether it refuses its data. -/
theorem perform_update (hm : r.get? name = some m) (context : Value) :
    r.perform (.update name context) =
      match context.laidOver with
      | .ok entries => r.perform (.update name (.dict entries))
      | .error f => (r, .error (.context f)) := by
  rw [perform, update_eq_bind hm]
  cases context.laidOver <;> rfl

theorem refuses_mount_iff (template : Value) :
    r.Refuses (.mount name template context) ↔ ∃ f, context.copied = .error f := by
  rw [Refuses, perform_mount]
  cases h : context.copied with
  | ok entries => exact iff_of_false (not_refuses_mount template entries) nofun
  | error f => exact iff_of_true ⟨_, rfl, .inl ⟨f, rfl⟩⟩ ⟨f, rfl⟩

theorem refuses_update_iff (hm : r.get? name = some m) :
    r.Refuses (.update name context) ↔ ∃ f, context.laidOver = .error f := by
  rw [Refuses, perform_update hm]
  cases h : context.laidOver with
  | ok entries => exact iff_of_false (not_refuses_update hm entries) nofun
  | error f => exact iff_of_true ⟨_, rfl, .inl ⟨f, rfl⟩⟩ ⟨f, rfl⟩

theorem renderValue_str (text : String) (context : Value) :
    renderValue (.str text) context = render text context := rfl

theorem perform_render_of_isContext (template : Value) (hc : context.IsContext) :
    r.perform (.render template context) =
      r.perform (.render template (.dict context.entries)) := by
  obtain rfl | ⟨entries, rfl⟩ := hc <;> rfl

/-- Rendering refuses what is neither a dictionary nor nothing. -/
theorem perform_render_of_not_isContext (hp : Program.ofTemplate text = .ok p)
    (hc : ¬context.IsContext) :
    r.perform (.render (.str text) context) = (r, .error (.rendering (.render .notMapping))) := by
  have hrender : p.render context = .error .notMapping := by
    cases context with
    | none => exact absurd (.inl rfl) hc
    | dict entries => exact absurd (.inr ⟨entries, rfl⟩) hc
    | _ => rfl
  have hvalue : render text context = .error (.render .notMapping) := by
    rw [render, hp]
    show (p.render context).mapError Failure.render = _
    rw [hrender]
    rfl
  rw [perform, renderValue_str, hvalue]
  rfl

theorem refuses_render_iff (hp : Program.ofTemplate text = .ok p) :
    r.Refuses (.render (.str text) context) ↔ ¬context.IsContext := by
  constructor
  · rintro ⟨e, he, hrefused⟩ hc
    rw [perform_render_of_isContext _ hc] at he
    have hfailed := Except.map_eq_error_iff.1 he
    obtain ⟨e', hr, rfl⟩ := Except.mapError_eq_error_iff.1 hfailed
    obtain ⟨f, hf⟩ | hf := hrefused <;> cases hf
    exact render_ne text context.entries hr
  · intro hc
    exact ⟨_, congrArg Prod.snd (perform_render_of_not_isContext hp hc), .inr rfl⟩

/-- **What each call takes for data.** Whatever the data are, of a template that has a program and
of a name under which something is mounted: rendering refuses exactly what is neither a dictionary
nor nothing, as no mapping; an update refuses exactly what counts as true and is no dictionary, and
a mount exactly what, besides, is no pairs; both do so with a fault of conversion. A call that
refuses its data leaves the registry as it was. What is not refused is taken for a dictionary: a
dictionary or nothing for the same entries by all three, what counts as false for none, and pairs
for what they make. -/
theorem refuses_iff (hp : Program.ofTemplate text = .ok p) (hm : r.get? name = some m)
    (other : String) (context : Value) :
    (r.Refuses (.render (.str text) context) ↔ ¬context.IsContext) ∧
    (r.Refuses (.update name context) ↔ context.isTrue = true ∧ context.isDict = false) ∧
    (r.Refuses (.mount other (.str text) context) ↔
      context.isTrue = true ∧ context.isDict = false ∧ ∀ pairs, ¬context.ArePairs pairs) ∧
    (r.Refuses (.render (.str text) context) →
      ∃ e, r.perform (.render (.str text) context) = (r, .error (.rendering (.render e))) ∧
        e.message = "Context must be a mapping") ∧
    (∀ c ∈ [Call.update name context, .mount other (.str text) context], r.Refuses c →
      ∃ f, r.perform c = (r, .error (.context f)) ∧ f.IsConversion) ∧
    (context.IsContext →
      ∀ call ∈ [Call.render (.str text), .update name, .mount other (.str text)],
        r.perform (call context) = r.perform (call (.dict context.entries))) ∧
    (context.isTrue = false → ∀ call ∈ [Call.update name, .mount other (.str text)],
      r.perform (call context) = r.perform (call (.dict []))) ∧
    (∀ pairs, context.ArePairs pairs → r.perform (.mount other (.str text) context) =
      r.perform (.mount other (.str text) (.dict (Value.merge [] pairs)))) := by
  refine ⟨refuses_render_iff hp, (refuses_update_iff hm).trans Value.laidOver_eq_error_iff,
    (refuses_mount_iff _).trans Value.copied_eq_error_iff, ?_, ?_, ?_, ?_, ?_⟩
  · -- rendering finds that the data are no mapping
    intro hr
    exact ⟨_, perform_render_of_not_isContext hp ((refuses_render_iff hp).1 hr), rfl⟩
  · -- an update and a mount fail before that, while they convert the data
    simp only [List.forall_mem_cons, List.not_mem_nil, false_implies, implies_true, and_true]
    constructor
    · intro hr
      obtain ⟨f, hf⟩ := (refuses_update_iff hm).1 hr
      exact ⟨f, by rw [perform_update hm, hf], Value.failsBy_laidOver context f hf⟩
    · intro hr
      obtain ⟨f, hf⟩ := (refuses_mount_iff _).1 hr
      exact ⟨f, by rw [perform_mount, hf], Value.failsBy_copied context f hf⟩
  · intro hc
    simp only [List.forall_mem_cons, List.not_mem_nil, false_implies, implies_true, and_true]
    refine ⟨perform_render_of_isContext _ hc, ?_, ?_⟩
    · rw [perform_update hm, Value.laidOver_of_isContext hc]
    · rw [perform_mount, Value.copied_of_isContext hc]
  · -- what counts as false is taken for nothing, whatever it is
    intro hc
    simp only [List.forall_mem_cons, List.not_mem_nil, false_implies, implies_true, and_true]
    have hno : context.isTrue ≠ true := ne_true_of_eq_false hc
    constructor
    · rw [perform_update hm, Value.laidOver, if_neg hno]
    · rw [perform_mount, Value.copied, if_neg hno]
  · intro pairs h
    rw [perform_mount, h.copied]

/-- A list of pairs: rendering and an update refuse it, and a mount takes it for a dictionary. -/
theorem refuses_iff_pairs :
    let r := (({} : Registry).perform (.mount "a" (.str "Hi {{x}}") .none)).1
    let context := Value.list [.tuple [.str "x", .str "Ann"]]
    (∃ p, Program.ofTemplate "Hi {{x}}" = .ok p) ∧ (∃ m, r.get? "a" = some m) ∧
      r.Refuses (.render (.str "Hi {{x}}") context) ∧
      r.Refuses (.update "a" context) ∧
      ¬r.Refuses (.mount "b" (.str "Hi {{x}}") context) ∧
      r.perform (.mount "b" (.str "Hi {{x}}") context) =
        r.perform (.mount "b" (.str "Hi {{x}}")
          (.dict (Value.merge [] [(.str "x", .str "Ann")]))) := by
  intro r context
  have hprogram : (Program.ofTemplate "Hi {{x}}").toOption.isSome = true := by
    decide +kernel
  have hmounted : (r.get? "a").isSome = true := by decide +kernel
  obtain ⟨p, hp⟩ := Option.isSome_iff_exists.1 hprogram
  obtain ⟨m, hm⟩ := Option.isSome_iff_exists.1 hmounted
  have hpairs : context.ArePairs [(.str "x", .str "Ann")] :=
    ⟨rfl, _, rfl, .cons ⟨rfl, rfl⟩ .nil⟩
  obtain ⟨hrender, hupdate, hmount, -, -, -, -, htaken⟩ :=
    refuses_iff (Except.eq_ok_of_toOption hp) hm "b" context
  have hneither : ¬context.IsContext := by simp [context, Value.IsContext]
  refine ⟨⟨p, Except.eq_ok_of_toOption hp⟩, ⟨m, hm⟩, hrender.2 hneither, hupdate.2 ⟨rfl, rfl⟩, ?_,
    htaken _ hpairs⟩
  exact fun h => (hmount.1 h).2.2 _ hpairs

end Registry

end Curly
