import Curly.Proofs.Program.Texts

/-!
How simple nodes fail: as their terms do, or as the texts of what these lead to. What they lead to
is what the data hold, so a property of values that the data have and hand on to all that they hold
is a property of every value that is put out.
-/

namespace Curly

/-- A property of values that is handed on: to their items, and to what paths lead to. -/
structure Value.IsHandedOn (D : Value → Prop) : Prop where
  items : ∀ {v : Value} {vs : List Value}, D v → v.items? = some vs → ∀ w ∈ vs, D w
  lookup : ∀ {v w : Value} {path : String}, D v → v.lookup path = .ok w → D w

theorem Value.isHandedOn_isData : IsHandedOn IsData :=
  ⟨fun hv => hv.of_mem_items, fun hv => hv.of_lookup⟩

theorem Value.isHandedOn_true : IsHandedOn fun _ => True :=
  ⟨fun _ _ _ _ => trivial, fun _ _ => trivial⟩

/-- How simple templates fail, if terms with a property fail by a kind of faults only and values
with a property, which the data hand on, have no texts by this kind only. -/
structure Fault.Covers (Q : Fault → Prop) (P : Term → Prop) (D : Value → Prop) : Prop where
  isStable : Term.IsStable P
  isHandedOn : Value.IsHandedOn D
  term : ∀ {bindings : List String} {t : Term} (data item : Value), P t → t.Plain bindings →
    (t.valueAt data item).FailsBy Q
  text : ∀ {v : Value}, D v → v.stringify.FailsBy Q

namespace Fault.Covers

variable {Q : Fault → Prop} {P : Term → Prop} {D : Value → Prop} {data item : Value}

theorem escaped (h : Covers Q P D) {v : Value} (hv : D v) : v.escaped.FailsBy Q :=
  (h.text hv).bind fun _ _ => .of_ok _

/-- What is read as a simple term fails as the term. -/
theorem valueOf (h : Covers Q P D) {read : Scope → List Char → Except ExpressionFailure Term}
    (hread : Term.IsReader read) {inLoop : Bool} {text : List Char}
    (ht : Term.IsReadAs read P inLoop text) (data item : Value) :
    (Term.valueOf read inLoop text data item).FailsBy Q := by
  obtain ⟨t, ht, htP⟩ := ht
  rw [Term.valueOf, ht]
  exact h.term data item htP (hread.plain ht (h.isStable.isSimple htP))

/-- The value of an access is what the data or the item hand on. -/
theorem of_valueOf (h : Covers Q P D) {inLoop : Bool} {text : List Char}
    (ht : Term.IsReadAs Term.readAccess P inLoop text) (hdata : D data) (hitem : D item) {v : Value}
    (hv : Term.valueOf Term.readAccess inLoop text data item = .ok v) : D v := by
  have hbound (binding : String) : D (Term.boundTo data item binding) := by
    rw [Term.boundTo]
    split
    · exact hdata
    · exact hitem
  obtain ⟨t, ht, htP⟩ := ht
  rw [Term.valueOf, ht] at hv
  obtain rfl | ⟨path, -, rfl | rfl⟩ := Term.access_cases ht (h.isStable.isSimple htP)
  · cases hv
    exact hbound _
  · exact h.isHandedOn.lookup (hbound _) hv
  · exact h.isHandedOn.lookup (hbound _) hv

mutual

/-- Simple nodes fail by the faults of their terms and of texts only. -/
theorem texts (h : Covers Q P D) {inLoop : Bool} {data item : Value} (hdata : D data)
    (hitem : D item) : (n : Node) → n.Reads P inLoop → (n.texts inLoop data item).FailsBy Q
  | .text text, _ => .of_ok [text]
  | .variable expression, hn => by
      have hvalue := h.valueOf Term.isReader_readAccess hn data item
      exact hvalue.bind fun v hv => (h.escaped (h.of_valueOf hn hdata hitem hv)).bind fun s _ =>
        .of_ok [s]
  | .raw expression, hn => by
      have hvalue := h.valueOf Term.isReader_readAccess hn data item
      exact hvalue.bind fun v hv => (h.text (h.of_valueOf hn hdata hitem hv)).bind fun s _ =>
        .of_ok [s]
  | .cond condition children, hn => by
      have hvalue := h.valueOf Term.isReader_readCondition hn.1 data item
      refine hvalue.bind fun v _ => ?_
      cases v.isTrue with
      | true => exact h.textsOfNodes hdata hitem children hn.2
      | false => exact .of_ok []
  | .each items children, hn => by
      have hvalue := h.valueOf Term.isReader_readAccess hn.1 data item
      refine hvalue.bind fun v hv => ?_
      -- in a loop the item at hand is an item of what the data hand on
      have hvD := h.of_valueOf hn.1 hdata hitem hv
      cases hvs : v.items? with
      | none => exact .of_ok []
      | some vs =>
          have hrounds := Except.FailsBy.mapM vs fun w hw =>
            h.textsOfNodes hdata (h.isHandedOn.items hvD hvs w hw) children hn.2
          exact hrounds.bind fun rounds _ => .of_ok rounds.flatten
  | .foreign _, hn => hn.elim

theorem textsOfNodes (h : Covers Q P D) {inLoop : Bool} {data item : Value} (hdata : D data)
    (hitem : D item) : (ns : List Node) → nodesRead P inLoop ns →
      (Curly.textsOfNodes inLoop data item ns).FailsBy Q
  | [], _ => .of_ok []
  | n :: ns, hns =>
      (h.texts hdata hitem n hns.1).bind fun _ _ =>
        (h.textsOfNodes hdata hitem ns hns.2).bind fun _ _ => .of_ok _

end

/-- No simple template stops at an unbound variable. -/
theorem isBound : Covers (·.unbound? = none) (fun t => t.isSimple = true) fun _ => True where
  isStable := Term.isStable_isSimple
  isHandedOn := Value.isHandedOn_true
  term _ _ _ ht := ht.failsBy.mono fun _ hf => hf ▸ rfl
  text {v} _ := (Value.canBeLong_stringify v).mono fun _ hf => hf ▸ rfl

/-- Without numbers that are too large, a simple template does not fail on data. -/
theorem isTotal : Covers (fun _ => False) (fun t => t.isSimple = true ∧ t.isFinite = true)
    Value.IsData where
  isStable := Term.isStable_isFinite
  isHandedOn := Value.isHandedOn_isData
  term _ _ htP ht := Except.failsBy_of_exists_ok (ht.exists_valueAt htP.2)
  text hv := Except.failsBy_of_exists_ok hv.exists_stringify

end Fault.Covers

end Curly
