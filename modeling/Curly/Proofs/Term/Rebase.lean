import Curly.Proofs.Except
import Curly.Proofs.Number.Reading
import Curly.Proofs.Term.Simple

/-!
Simple terms in other scopes. The scope of a simple term shows in one name only, that of the item at
hand. So what is read as a simple term in one scope is read in another one of the same kind as the
same term with the other name in the place of this one, and its value is the same.
-/

namespace Curly

/-- Whether the loops of a scope have names of loops. -/
def Scope.IsNumbered (scope : Scope) : Prop := ∀ l ∈ scope, ∃ n, l = .numbered loopLead n

/-- Whether two scopes are both inside of loops or both outside. -/
def Scope.IsLike (scope other : Scope) : Prop := scope.isEmpty = other.isEmpty

namespace Term

/-- The name of an item is not that of the data. -/
theorem thisName_eq_contextName {scope : Scope} (hs : scope.IsNumbered) :
    thisName scope = contextName ↔ scope.isEmpty = true := by
  cases scope with
  | nil => simp [thisName]
  | cons l rest =>
      obtain ⟨n, rfl⟩ := hs l List.mem_cons_self
      have hitem : (LoopNames.numbered loopLead n).item ≠ contextName := by
        intro heq
        have hmem : contextName ∈ (LoopNames.numbered loopLead n).all := by
          rw [← heq]
          simp [LoopNames.all]
        exact LoopNames.not_mem_all_of_not_isDigit (by decide) n hmem
      simp [thisName, hitem]

theorem thisName_eq_iff {scope other : Scope} (hs : scope.IsNumbered) (ho : other.IsNumbered)
    (h : scope.IsLike other) : thisName scope = contextName ↔ thisName other = contextName := by
  rw [thisName_eq_contextName hs, thisName_eq_contextName ho, h]

/-- A term with another name for the item at hand. -/
def rebase (this that : String) : Term → Term
  | .this binding => .this (if binding = this then that else binding)
  | .path base dotted => .path (if base = this then that else base) dotted
  | .comparison op l r => .comparison op (l.rebase this that) (r.rebase this that)
  | .truthy e => .truthy (e.rebase this that)
  | t => t

variable {this that : String} {data item : Value}

theorem boundTo_rebase (h : this = contextName ↔ that = contextName) (binding : String) :
    boundTo data item (if binding = this then that else binding) = boundTo data item binding := by
  by_cases hb : binding = this
  · rw [if_pos hb, hb, boundTo, boundTo]
    by_cases hc : this = contextName
    · rw [if_pos hc, if_pos (h.1 hc)]
    · rw [if_neg hc, if_neg fun hc' => hc (h.2 hc')]
  · rw [if_neg hb]

theorem valueAt_rebase (h : this = contextName ↔ that = contextName) :
    (t : Term) → (t.rebase this that).valueAt data item = t.valueAt data item
  | .this binding => by rw [rebase, valueAt, valueAt, boundTo_rebase h]
  | .path base dotted => by rw [rebase, valueAt, valueAt, boundTo_rebase h]
  | .complex source body => rfl
  | .literal code value => rfl
  | .comparison op l r => by
      cases op <;> simp only [rebase, valueAt, valueAt_rebase h l, valueAt_rebase h r]
  | .truthy e => by rw [rebase, valueAt, valueAt, valueAt_rebase h e]

theorem isSimple_rebase : (t : Term) → (t.rebase this that).isSimple = t.isSimple
  | .this binding => rfl
  | .path base dotted => rfl
  | .complex source body => rfl
  | .literal code value => rfl
  | .comparison op l r => by rw [rebase, isSimple, isSimple, isSimple_rebase l, isSimple_rebase r]
  | .truthy e => by rw [rebase, isSimple, isSimple, isSimple_rebase e]

theorem isFinite_rebase : (t : Term) → (t.rebase this that).isFinite = t.isFinite
  | .this binding => rfl
  | .path base dotted => rfl
  | .complex source body => rfl
  | .literal code value => rfl
  | .comparison op l r => by rw [rebase, isFinite, isFinite, isFinite_rebase l, isFinite_rebase r]
  | .truthy e => by rw [rebase, isFinite, isFinite, isFinite_rebase e]

/-! ### Reading -/

variable {scope other : Scope} {text : List Char} {t : Term}

/-- What is read as a free-form expression is not simple. -/
theorem not_isSimple_of_readComplex (h : readComplex scope text = .ok t) (ht : t.isSimple = true) :
    False := by
  obtain ⟨code, e, -, rfl⟩ := exists_of_readComplex h
  cases ht

/-- An access that is simple: the item at hand, or a path from there or from the data. -/
theorem access_cases (h : readAccess scope text = .ok t) (ht : t.isSimple = true) :
    t = .this (thisName scope) ∨ ∃ path, Form.isPath path = true ∧
      (t = .path (thisName scope) (String.ofList path) ∨
        t = .path contextName (String.ofList path)) := by
  cases accessForm text with
  | empty _ hread | other _ hread =>
      rw [hread] at h
      cases h
  | this _ hread =>
      rw [hread] at h
      cases h
      exact .inl rfl
  | freeForm _ hread =>
      rw [hread] at h
      exact (not_isSimple_of_readComplex h ht).elim
  | ofThis path _ _ hpath hread =>
      rw [hread] at h
      cases h
      exact .inr ⟨path, hpath, .inl rfl⟩
  | ofData _ hpath hread =>
      rw [hread] at h
      cases h
      exact .inr ⟨_, hpath, .inr rfl⟩

/-- An access that is simple is read in other scopes, too. -/
theorem readAccess_of_isSimple (h : readAccess scope text = .ok t) (ht : t.isSimple = true)
    (ho : thisName scope = contextName → thisName other = contextName) :
    readAccess other text = .ok (t.rebase (thisName scope) (thisName other)) := by
  cases accessForm text with
  | empty _ hread | other _ hread =>
      rw [hread] at h
      cases h
  | freeForm _ hread =>
      rw [hread] at h
      exact (not_isSimple_of_readComplex h ht).elim
  | this _ hread | ofThis _ _ _ _ hread =>
      rw [hread] at h ⊢
      cases h
      simp [rebase]
  | ofData _ _ hread =>
      rw [hread] at h ⊢
      cases h
      -- outside of loops a path from the data is one from the item at hand, in both scopes
      by_cases hc : contextName = thisName scope
      · rw [rebase, if_pos hc, ho hc.symm]
      · rw [rebase, if_neg hc]

/-- An operand in quotes is a string. -/
theorem readQuoted_eq_ok {s : List Char} (h : readQuoted s = .ok t) :
    ∃ value marked, t = .literal (String.ofList s) (.literal (.str value marked)) := by
  rw [readQuoted] at h
  split at h
  · cases h
    exact ⟨_, _, rfl⟩
  · cases h

/-- An operand that is a number is an integer with few enough digits, or a floating-point number. -/
theorem readNumber?_eq_ok {s : List Char} (h : readNumber? s = some (.ok t)) :
    (∃ n : Int, Reading.int s = .ok n ∧
      t = .literal (toString n) (signed (n < 0) (.literal (.int n.natAbs)))) ∨
    ∃ x, Reading.float? s = some x ∧ t = ofDouble x := by
  rw [readNumber?] at h
  split at h
  · cases h
  split at h
  · split at h
    · rename_i n hn
      cases h
      exact .inl ⟨n, hn, rfl⟩
    · cases h
    · cases h
  · obtain ⟨x, hx, hr⟩ := Option.map_eq_some_iff.1 h
    cases hr
    exact .inr ⟨x, hx, rfl⟩

/-- What an operand can be. -/
theorem readOperand_cases (h : readOperand scope text = .ok t) :
    (isQuoted (Text.strip text) = true ∧ readQuoted (Text.strip text) = .ok t) ∨
      readNumber? (Text.strip text) = some (.ok t) ∨
      readAccess scope (Text.strip text) = .ok t := by
  rw [readOperand] at h
  generalize Text.strip text = s at h ⊢
  split at h
  · rename_i hquoted
    exact .inl ⟨hquoted, h⟩
  · cases hn : readNumber? s with
    | none =>
        rw [hn] at h
        exact .inr (.inr h)
    | some r =>
        rw [hn] at h
        exact .inr (.inl (congrArg some h))

/-- An operand that is simple is read in other scopes, too. -/
theorem readOperand_of_isSimple (h : readOperand scope text = .ok t) (ht : t.isSimple = true)
    (ho : thisName scope = contextName → thisName other = contextName) :
    readOperand other text = .ok (t.rebase (thisName scope) (thisName other)) := by
  rw [readOperand] at h ⊢
  generalize Text.strip text = s at h ⊢
  split at h
  · rename_i hq
    rw [if_pos hq]
    obtain ⟨value, marked, rfl⟩ := readQuoted_eq_ok h
    exact h
  · rename_i hq
    rw [if_neg hq]
    cases hn : readNumber? s with
    | none =>
        rw [hn] at h
        exact readAccess_of_isSimple h ht ho
    | some r =>
        rw [hn] at h
        have hr : r = .ok t := h
        rw [hr] at hn
        -- a number has no scope
        obtain ⟨n, -, rfl⟩ | ⟨x, -, rfl⟩ := readNumber?_eq_ok hn
        · exact h
        · exact h

/-- What a condition can be. -/
theorem readCondition_cases (h : readCondition scope text = .ok t) :
    (∃ op word left right l r, Form.comparison? (Text.strip text) = some (word, left, right) ∧
      Operator.ofName? (String.ofList word) = some op ∧ readOperand scope left = .ok l ∧
      readOperand scope right = .ok r ∧ t = .comparison op l r) ∨
    ∃ e, Form.comparison? (Text.strip text) = none ∧
      (Form.isComplex (Text.strip text) || Text.strip text = "this".toList ||
        "this.".toList.isPrefixOf (Text.strip text) || Form.isPath (Text.strip text)) = true ∧
      readAccess scope (Text.strip text) = .ok e ∧ t = .truthy e := by
  rw [readCondition] at h
  generalize Text.strip text = s at h ⊢
  -- a text of the form of a comparison is read as nothing else
  cases hc : Form.comparison? s with
  | some parts =>
      obtain ⟨word, left, right⟩ := parts
      rw [hc] at h
      dsimp only at h
      cases hop : Operator.ofName? (String.ofList word) with
      | none =>
          rw [hop] at h
          cases h
      | some op =>
          rw [hop] at h
          obtain ⟨l, hl, h⟩ := Except.bind_eq_ok_iff.1 h
          obtain ⟨r, hr, h⟩ := Except.bind_eq_ok_iff.1 h
          cases h
          exact .inl ⟨op, word, left, right, l, r, rfl, hop, hl, hr, rfl⟩
  | none =>
      rw [hc] at h
      dsimp only at h
      split at h
      · obtain ⟨e, he, rfl⟩ := Except.map_eq_ok_iff.1 h
        exact .inr ⟨e, rfl, ‹_›, he, rfl⟩
      · cases h

/-- A condition that is simple is read in other scopes, too. -/
theorem readCondition_of_isSimple (h : readCondition scope text = .ok t) (ht : t.isSimple = true)
    (ho : thisName scope = contextName → thisName other = contextName) :
    readCondition other text = .ok (t.rebase (thisName scope) (thisName other)) := by
  obtain ⟨op, word, left, right, l, r, hc, hop, hl, hr, rfl⟩ | ⟨e, hc, hform, he, rfl⟩ :=
    readCondition_cases h
  · rw [isSimple, Bool.and_eq_true] at ht
    rw [readCondition, hc]
    dsimp only
    rw [hop]
    dsimp only
    rw [readOperand_of_isSimple hl ht.1 ho, readOperand_of_isSimple hr ht.2 ho]
    rfl
  · rw [readCondition, hc]
    dsimp only
    rw [if_pos hform, readAccess_of_isSimple he ht ho]
    rfl

/-! ### The forms of simple terms -/

theorem isOperand_of_readAccess (h : readAccess scope text = .ok t) (ht : t.isSimple = true) :
    t.IsOperand [contextName, thisName scope] := by
  obtain rfl | ⟨path, hpath, rfl | rfl⟩ := access_cases h ht
  · exact .this (by simp)
  · exact .path (by simp) hpath
  · exact .path (by simp) hpath

theorem plain_of_readAccess (h : readAccess scope text = .ok t) (ht : t.isSimple = true) :
    t.Plain [contextName, thisName scope] := .operand (isOperand_of_readAccess h ht)

theorem isOperand_of_readOperand (h : readOperand scope text = .ok t) (ht : t.isSimple = true) :
    t.IsOperand [contextName, thisName scope] := by
  obtain ⟨hquoted, h⟩ | h | h := readOperand_cases h
  · obtain ⟨value, marked, rfl⟩ := readQuoted_eq_ok h
    rw [isSimple, String.toList_ofList] at ht
    exact .text value marked hquoted ht
  · obtain ⟨n, hn, rfl⟩ | ⟨x, -, rfl⟩ := readNumber?_eq_ok h
    · exact .integer (Reading.natAbs_lt_of_int hn)
    · exact .double x
  · exact isOperand_of_readAccess h ht

theorem plain_of_readCondition (h : readCondition scope text = .ok t) (ht : t.isSimple = true) :
    t.Plain [contextName, thisName scope] := by
  obtain ⟨op, word, left, right, l, r, -, -, hl, hr, rfl⟩ | ⟨e, -, -, he, rfl⟩ :=
    readCondition_cases h
  · rw [isSimple, Bool.and_eq_true] at ht
    exact .comparison op (isOperand_of_readOperand hl ht.1) (isOperand_of_readOperand hr ht.2)
  · have hsimple : e.isSimple = true := ht
    have hoperand := isOperand_of_readAccess he hsimple
    exact .truthy hoperand

/-! ### Scopes of a kind -/

/-- A way to read terms in which the scope shows in simple ones only as the name of the item at
hand. -/
structure IsReader (read : Scope → List Char → Except ExpressionFailure Term) : Prop where
  rebase : ∀ {scope other : Scope} {text : List Char} {t : Term}, read scope text = .ok t →
    t.isSimple = true → (thisName scope = contextName → thisName other = contextName) →
    read other text = .ok (t.rebase (thisName scope) (thisName other))
  plain : ∀ {scope : Scope} {text : List Char} {t : Term}, read scope text = .ok t →
    t.isSimple = true → t.Plain [contextName, thisName scope]

theorem isReader_readAccess : IsReader readAccess :=
  ⟨readAccess_of_isSimple, plain_of_readAccess⟩

theorem isReader_readCondition : IsReader readCondition :=
  ⟨readCondition_of_isSimple, plain_of_readCondition⟩

/-- A property of simple terms that does not depend on what the item at hand is called. -/
structure IsStable (P : Term → Prop) : Prop where
  isSimple : ∀ {t : Term}, P t → t.isSimple = true
  rebase : ∀ {t : Term} {this that : String}, (this = contextName ↔ that = contextName) → P t →
    P (t.rebase this that)

theorem isStable_isSimple : IsStable fun t => t.isSimple = true where
  isSimple := id
  rebase _ ht := by rwa [isSimple_rebase]

theorem isStable_isFinite : IsStable fun t => t.isSimple = true ∧ t.isFinite = true where
  isSimple ht := ht.1
  rebase _ ht := by rwa [isSimple_rebase, isFinite_rebase]

end Term

/-- Whether a scope is inside of loops, which have names of loops. -/
structure Scope.IsOf (inLoop : Bool) (scope : Scope) : Prop where
  isNumbered : scope.IsNumbered
  isEmpty_eq : scope.isEmpty = !inLoop

/-- A scope of each kind. -/
def Scope.sample (inLoop : Bool) : Scope := if inLoop then [.numbered loopLead 0] else []

namespace Scope

variable {scope other : Scope} {inLoop : Bool}

theorem isOf_nil : IsOf false [] := ⟨fun _ hl => absurd hl List.not_mem_nil, rfl⟩

theorem IsOf.cons (hs : scope.IsOf inLoop) (n : Nat) :
    IsOf true (.numbered loopLead n :: scope) := by
  refine ⟨fun l hl => ?_, rfl⟩
  obtain rfl | hl := List.mem_cons.1 hl
  · exact ⟨n, rfl⟩
  · exact hs.isNumbered l hl

theorem isOf_sample (inLoop : Bool) : IsOf inLoop (sample inLoop) := by
  cases inLoop with
  | false => exact isOf_nil
  | true => exact isOf_nil.cons 0

theorem IsOf.thisName_eq_iff (hs : scope.IsOf inLoop) (ho : other.IsOf inLoop) :
    Term.thisName scope = contextName ↔ Term.thisName other = contextName :=
  Term.thisName_eq_iff hs.isNumbered ho.isNumbered (hs.isEmpty_eq.trans ho.isEmpty_eq.symm)

end Scope

namespace Term

variable {read : Scope → List Char → Except ExpressionFailure Term} {P : Term → Prop}
  {scope other : Scope} {inLoop : Bool} {text : List Char} {t : Term}

/-- Whether a text is read as a term with a property, in scopes of a kind. -/
def IsReadAs (read : Scope → List Char → Except ExpressionFailure Term) (P : Term → Prop)
    (inLoop : Bool) (text : List Char) : Prop :=
  ∃ t, read (.sample inLoop) text = .ok t ∧ P t

/-- The value of a text that is read, in scopes of a kind. -/
def valueOf (read : Scope → List Char → Except ExpressionFailure Term) (inLoop : Bool)
    (text : List Char) (data item : Value) : Except Fault Value :=
  match read (.sample inLoop) text with
  | .ok t => t.valueAt data item
  | .error _ => .ok .none

/-- What a scope reads as a term with a property is read so in all scopes of its kind. -/
theorem isReadAs_of_ok (hread : IsReader read) (hP : IsStable P) (hs : scope.IsOf inLoop)
    (h : read scope text = .ok t) (ht : P t) : IsReadAs read P inLoop text := by
  have ho := hs.thisName_eq_iff (Scope.isOf_sample inLoop)
  exact ⟨_, hread.rebase h (hP.isSimple ht) ho.1, hP.rebase ho ht⟩

theorem IsReadAs.exists_ok (hread : IsReader read) (hP : IsStable P) (hs : scope.IsOf inLoop)
    (h : IsReadAs read P inLoop text) : ∃ t, read scope text = .ok t ∧ P t := by
  obtain ⟨t, ht, htP⟩ := h
  have ho := (Scope.isOf_sample inLoop).thisName_eq_iff hs
  exact ⟨_, hread.rebase ht (hP.isSimple htP) ho.1, hP.rebase ho htP⟩

/-- What is read as a simple term in the scopes of a kind is one in each of them. -/
theorem IsReadAs.isSimple (hread : IsReader read) (hP : ∀ {t : Term}, P t → t.isSimple = true)
    (hs : scope.IsOf inLoop) (h : IsReadAs read P inLoop text) (ht : read scope text = .ok t) :
    t.isSimple = true := by
  obtain ⟨t', ht', htP⟩ := h
  have ho := (Scope.isOf_sample inLoop).thisName_eq_iff hs
  rw [hread.rebase ht' (hP htP) ho.1] at ht
  cases ht
  rw [isSimple_rebase]
  exact hP htP

/-- The value of a simple term is the same in all scopes of a kind. -/
theorem valueOf_of_ok (hread : IsReader read) (hs : scope.IsOf inLoop)
    (h : read scope text = .ok t) (ht : t.isSimple = true) (data item : Value) :
    valueOf read inLoop text data item = t.valueAt data item := by
  have ho := hs.thisName_eq_iff (Scope.isOf_sample inLoop)
  rw [valueOf, hread.rebase h ht ho.1]
  exact valueAt_rebase ho t

end Term

end Curly
