import Curly.Proofs.Program.Concatenation

/-!
What of the data simple templates look at: the keys that their paths from the data start with, and
nothing else. Two dictionaries that hold the same under these keys cannot be told apart by the
template. The two runs take the same branches and go through the same items, so inside of loops the
items at hand are the same, and at the top level no term reads the item at hand but as a path from
the data.
-/

namespace Curly

/-! ## The keys of a path -/

namespace Value

/-- Whether two dictionaries hold the same under some keys, or both hold nothing there. -/
def AgreeOn (keys : List String) (entries others : List (Value × Value)) : Prop :=
  ∀ key ∈ keys, field? key entries = field? key others

variable {keys : List String} {entries others : List (Value × Value)}

/-- A path is followed to the same place in dictionaries that agree on its first key. -/
theorem follow_of_agreeOn {key : String} (h : field? key entries = field? key others)
    (rest : List String) :
    (Value.dict entries).follow (key :: rest) = (Value.dict others).follow (key :: rest) := by
  have hentries : (Value.dict entries).child key = .ok ((field? key entries).getD .none) := rfl
  have hothers : (Value.dict others).child key = .ok ((field? key others).getD .none) := rfl
  rw [follow, follow, hentries, hothers, h]
  rfl

/-- A path leads to the same place in dictionaries that agree on its first key. -/
theorem lookup_of_agreeOn {path : String} (hpath : path.isEmpty = false)
    (h : AgreeOn (pathKeys path).head?.toList entries others) :
    (Value.dict entries).lookup path = (Value.dict others).lookup path := by
  have hfollow : (Value.dict entries).follow (pathKeys path) =
      (Value.dict others).follow (pathKeys path) := by
    cases hkeys : pathKeys path with
    | nil =>
        rw [pathKeys, List.map_eq_nil_iff] at hkeys
        exact absurd hkeys (Text.splitOn_ne_nil _ _ _)
    | cons key rest =>
        rw [hkeys] at h
        exact follow_of_agreeOn (h key List.mem_cons_self) rest
  rw [lookup, lookup, hpath, hfollow]
  rfl

end Value

/-! ## The keys of a term -/

namespace Term

/-- The keys of the data that a term reads: the first one of each of its paths from there. -/
def dataKeys : Term → List String
  | .path base dotted => if base = contextName then (Value.pathKeys dotted).head?.toList else []
  | .comparison _ l r => l.dataKeys ++ r.dataKeys
  | .truthy e => e.dataKeys
  | _ => []

/-- Whether a term reads the data as a whole, as `this` does outside of loops. -/
def readsWhole : Term → Bool
  | .this binding => binding == contextName
  | .comparison _ l r => l.readsWhole || r.readsWhole
  | .truthy e => e.readsWhole
  | _ => false

/-- A simple term that reads no more of the data than what stands under some keys. -/
structure ReadsOnly (keys : List String) (t : Term) : Prop where
  isSimple : t.isSimple = true
  readsWhole_eq : t.readsWhole = false
  dataKeys_subset : t.dataKeys ⊆ keys

variable {this that : String}

theorem rename_eq_contextName (h : this = contextName ↔ that = contextName) (binding : String) :
    (if binding = this then that else binding) = contextName ↔ binding = contextName := by
  by_cases hb : binding = this
  · rw [if_pos hb, hb]
    exact h.symm
  · rw [if_neg hb]

theorem dataKeys_rebase (h : this = contextName ↔ that = contextName) :
    (t : Term) → (t.rebase this that).dataKeys = t.dataKeys
  | .this binding => rfl
  | .path base dotted => by simp only [rebase, dataKeys, rename_eq_contextName h]
  | .complex source body => rfl
  | .literal code value => rfl
  | .comparison op l r => by
      rw [rebase, dataKeys, dataKeys, dataKeys_rebase h l, dataKeys_rebase h r]
  | .truthy e => by rw [rebase, dataKeys, dataKeys, dataKeys_rebase h e]

theorem readsWhole_rebase (h : this = contextName ↔ that = contextName) :
    (t : Term) → (t.rebase this that).readsWhole = t.readsWhole
  | .this binding => by
      rw [rebase, readsWhole, readsWhole, Bool.eq_iff_iff, beq_iff_eq, beq_iff_eq]
      exact rename_eq_contextName h binding
  | .path base dotted => rfl
  | .complex source body => rfl
  | .literal code value => rfl
  | .comparison op l r => by
      rw [rebase, readsWhole, readsWhole, readsWhole_rebase h l, readsWhole_rebase h r]
  | .truthy e => by rw [rebase, readsWhole, readsWhole, readsWhole_rebase h e]

/-- What a term reads of the data does not depend on what the item at hand is called. -/
theorem isStable_readsOnly (keys : List String) : IsStable (ReadsOnly keys) where
  isSimple ht := ht.isSimple
  rebase h ht := by
    refine ⟨?_, ?_, ?_⟩
    · rw [isSimple_rebase]
      exact ht.isSimple
    · rw [readsWhole_rebase h]
      exact ht.readsWhole_eq
    · rw [dataKeys_rebase h]
      exact ht.dataKeys_subset

variable {bindings : List String} {entries others : List (Value × Value)} {item other : Value}

/-- What stands under a name of generated code, if this is not the name of the data. -/
theorem boundTo_eq_of_ne {data rest : Value} {binding : String} (hb : binding ≠ contextName)
    (hitem : item = other) : boundTo data item binding = boundTo rest other binding := by
  rw [boundTo, boundTo, if_neg hb, if_neg hb, hitem]

/-- The value of an operand is the same for dictionaries that agree on its keys. -/
theorem IsOperand.valueAt_of_agreeOn {t : Term} (ht : t.IsOperand bindings)
    (hitem : ∀ b ∈ bindings, b ≠ contextName → item = other) (hwhole : t.readsWhole = false)
    (hkeys : Value.AgreeOn t.dataKeys entries others) :
    t.valueAt (.dict entries) item = t.valueAt (.dict others) other := by
  cases ht with
  -- the data are read by a path alone; a name by itself is that of an item, or it would read them
  -- whole
  | @this binding hb =>
      have hne : binding ≠ contextName := by simpa [readsWhole] using hwhole
      rw [valueAt, valueAt, boundTo_eq_of_ne hne (hitem binding hb hne)]
  | @path base path hb hpath =>
      by_cases hbase : base = contextName
      · rw [dataKeys, if_pos hbase] at hkeys
        have hempty : (String.ofList path).isEmpty = false := by
          cases path with
          | nil => cases hpath
          | cons c cs => simp
        rw [valueAt, valueAt, boundTo, boundTo, if_pos hbase, if_pos hbase]
        exact Value.lookup_of_agreeOn hempty hkeys
      · rw [valueAt, valueAt, boundTo_eq_of_ne hbase (hitem base hb hbase)]
  | text => rfl
  | integer => rfl
  | double x =>
      obtain ⟨value, hx, -⟩ := isConstant_ofDouble x
      rw [hx, valueAt, valueAt]

/-- The value of a term is the same for dictionaries that agree on its keys. -/
theorem Plain.valueAt_of_agreeOn {t : Term} (ht : t.Plain bindings)
    (hitem : ∀ b ∈ bindings, b ≠ contextName → item = other) (hwhole : t.readsWhole = false)
    (hkeys : Value.AgreeOn t.dataKeys entries others) :
    t.valueAt (.dict entries) item = t.valueAt (.dict others) other := by
  cases ht with
  | operand ht => exact ht.valueAt_of_agreeOn hitem hwhole hkeys
  | comparison op hl hr =>
      rw [readsWhole, Bool.or_eq_false_iff] at hwhole
      rw [dataKeys] at hkeys
      have hleft := hl.valueAt_of_agreeOn hitem hwhole.1
        fun key hkey => hkeys key (List.mem_append_left _ hkey)
      have hright := hr.valueAt_of_agreeOn hitem hwhole.2
        fun key hkey => hkeys key (List.mem_append_right _ hkey)
      cases op <;> simp only [valueAt, hleft, hright]
  | truthy he => rw [valueAt, valueAt, he.valueAt_of_agreeOn hitem hwhole hkeys]

variable {keys : List String} {inLoop : Bool}

/-- A text that is read has the same value for dictionaries that agree on its keys. The items at
hand are asked for inside of loops only. -/
theorem valueOf_of_agreeOn {read : Scope → List Char → Except ExpressionFailure Term}
    (hread : IsReader read) (hagree : Value.AgreeOn keys entries others)
    (hitem : inLoop = true → item = other) {text : List Char}
    (h : IsReadAs read (ReadsOnly keys) inLoop text) :
    valueOf read inLoop text (.dict entries) item =
      valueOf read inLoop text (.dict others) other := by
  obtain ⟨t, ht, hkeys⟩ := h
  have hplain := hread.plain ht hkeys.isSimple
  have hnames : ∀ b ∈ [contextName, thisName (.sample inLoop)],
      b ≠ contextName → item = other := by
    intro b hb hne
    cases inLoop with
    | true => exact hitem rfl
    | false =>
        -- at the top level the item at hand goes by the name of the data
        have hcontext : b = contextName := by simpa [Scope.sample, thisName] using hb
        exact absurd hcontext hne
  rw [valueOf, valueOf, ht]
  exact hplain.valueAt_of_agreeOn hnames hkeys.readsWhole_eq
    fun key hkey => hagree key (hkeys.dataKeys_subset hkey)

end Term

/-! ## Two runs -/

variable {keys : List String} {entries others : List (Value × Value)}

mutual

/-- A node says the same about dictionaries that agree on its keys, if the items at hand are the
same inside of loops. -/
theorem Node.texts_of_agreeOn (hagree : Value.AgreeOn keys entries others) {inLoop : Bool}
    {item other : Value} (hitem : inLoop = true → item = other) :
    (n : Node) → n.Reads (Term.ReadsOnly keys) inLoop →
      n.texts inLoop (.dict entries) item = n.texts inLoop (.dict others) other
  | .text text, _ => by rw [Node.texts, Node.texts]
  | .variable expression, hn => by
      rw [Node.texts, Node.texts, Term.valueOf_of_agreeOn Term.isReader_readAccess hagree hitem hn]
  | .raw expression, hn => by
      rw [Node.texts, Node.texts, Term.valueOf_of_agreeOn Term.isReader_readAccess hagree hitem hn]
  | .cond condition children, hn => by
      have hcondition :=
        Term.valueOf_of_agreeOn Term.isReader_readCondition hagree hitem hn.1
      have hchildren := textsOfNodes_of_agreeOn hagree hitem children hn.2
      rw [Node.texts, Node.texts, hcondition, hchildren]
  | .each items children, hn => by
      have hitems := Term.valueOf_of_agreeOn Term.isReader_readAccess hagree hitem hn.1
      -- the value that is looped over is the same, so both runs go through the same items
      have hround (w : Value) : textsOfNodes true (.dict entries) w children =
          textsOfNodes true (.dict others) w children :=
        textsOfNodes_of_agreeOn hagree (fun _ => rfl) children hn.2
      rw [Node.texts, Node.texts, hitems]
      simp only [hround]
  | .foreign _, hn => hn.elim

theorem textsOfNodes_of_agreeOn (hagree : Value.AgreeOn keys entries others) {inLoop : Bool}
    {item other : Value} (hitem : inLoop = true → item = other) :
    (ns : List Node) → nodesRead (Term.ReadsOnly keys) inLoop ns →
      textsOfNodes inLoop (.dict entries) item ns = textsOfNodes inLoop (.dict others) other ns
  | [], _ => by rw [textsOfNodes, textsOfNodes]
  | n :: ns, hns => by
      rw [textsOfNodes, textsOfNodes, Node.texts_of_agreeOn hagree hitem n hns.1,
        textsOfNodes_of_agreeOn hagree hitem ns hns.2]

end

/-! ## Templates -/

variable {p : Program}

/-- The keys of the data that a program reads. -/
def Program.dataKeys (p : Program) : List String := p.terms.flatMap Term.dataKeys

/-- **The output depends on the data that a template names, and on no other.** If the expressions of
a template are paths, comparisons of such, of strings and of numbers, and items of loops, then two
dictionaries that hold the same, or nothing, under the first keys of its paths are rendered alike:
to the same text, or with the same failure. -/
theorem render_of_agreeOn {template : String} (hp : Program.ofTemplate template = .ok p)
    (hterms : ∀ u ∈ p.terms, u.isSimple = true ∧ u.readsWhole = false)
    (hagree : ∀ key ∈ p.dataKeys, Value.field? key entries = Value.field? key others) :
    render template (.dict entries) = render template (.dict others) := by
  obtain ⟨t, -, hgen, -⟩ := Program.ofTemplate_eq_ok_iff.1 hp
  have honly : ∀ u ∈ p.terms, u.ReadsOnly p.dataKeys := by
    intro u hu
    obtain ⟨hsimple, hwhole⟩ := hterms u hu
    exact ⟨hsimple, hwhole, fun key hkey => List.mem_flatMap.2 ⟨u, hu, hkey⟩⟩
  have hread := Program.nodesRead_of_ofTree (Term.isStable_readsOnly p.dataKeys) hgen honly
  have hrun (es : List (Value × Value)) : p.run (.dict es) = t.text (.dict es) :=
    Program.run_of_isSimple hgen (fun u hu => (hterms u hu).1) (.dict es)
  have htexts : t.text (.dict entries) = t.text (.dict others) := by
    have htop : false = true → Value.dict entries = Value.dict others := nofun
    rw [Tree.text, Tree.text, textsOfNodes_of_agreeOn hagree htop t.children hread]
  rw [render_of_ofTemplate hp, render_of_ofTemplate hp, Program.render, Program.render, hrun, hrun,
    htexts]

/-- A loop over the items under one key, with a comparison inside, and data that differ under a key
that is not read. -/
theorem render_of_agreeOn_secret :
    render
        ("\x7b\x7b#each xs\x7d\x7d\x7b\x7b#if (eq this.id y.z)\x7d\x7d\x7b\x7bthis.id\x7d\x7d" ++
          "\x7b\x7b/if\x7d\x7d\x7b\x7b/each\x7d\x7d")
        (.dict [(.str "xs", .list [.dict [(.str "id", .int 1)]]), (.str "secret", .int 1)]) =
      render
        ("\x7b\x7b#each xs\x7d\x7d\x7b\x7b#if (eq this.id y.z)\x7d\x7d\x7b\x7bthis.id\x7d\x7d" ++
          "\x7b\x7b/if\x7d\x7d\x7b\x7b/each\x7d\x7d")
        (.dict [(.str "secret", .int 2), (.str "xs", .list [.dict [(.str "id", .int 1)]])]) := by
  -- what the theorem asks of the terms of the program is decidable, and is computed
  have hchecked : ((Program.ofTemplate
      ("\x7b\x7b#each xs\x7d\x7d\x7b\x7b#if (eq this.id y.z)\x7d\x7d\x7b\x7bthis.id\x7d\x7d" ++
        "\x7b\x7b/if\x7d\x7d\x7b\x7b/each\x7d\x7d")).toOption.map fun p =>
          (p.terms.all fun u => u.isSimple && !u.readsWhole) &&
            p.dataKeys.all (["xs", "y"].contains ·)) = some true := by
    decide +kernel
  obtain ⟨p, hp, hterms⟩ := Option.map_eq_some_iff.1 hchecked
  rw [Bool.and_eq_true, List.all_eq_true, List.all_eq_true] at hterms
  refine render_of_agreeOn (Except.eq_ok_of_toOption hp) (fun u hu => ?_) fun key hkey => ?_
  · have hu := hterms.1 u hu
    rw [Bool.and_eq_true] at hu
    simpa using hu
  · have hkey := hterms.2 key hkey
    obtain rfl | rfl : key = "xs" ∨ key = "y" := by simpa using hkey
    · simp [Value.field?, Value.find?, Value.equal]
    · simp [Value.field?, Value.find?, Value.equal]

end Curly
