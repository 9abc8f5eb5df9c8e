import Curly.Proofs.Except
import Curly.Yaml

/-!
Faults of documents. What is no YAML is a defect, which is reported as such. But a document that is
YAML may still have no value: a scalar may not fit its tag, and a key may be none that a dictionary
can have. Such a fault always has a cause at a place of the document.
-/

namespace Curly.Yaml

open Except

/-! ## Scalars -/

/-- The word that a truth value is looked up by. -/
def truthWord (text : String) : String := String.ofList (Text.Unicode.toLower text.toList)

/-- A number's text in the form in which its digits are read. -/
def numberText (tag : Tag) (text : String) : List Char :=
  if tag = .float then Text.Unicode.toLower text.toList else text.toList

/-- What is shown of digits that make no integer. -/
def misread (ds : List Char) : String :=
  String.ofList ((Text.Quoted.ofString (String.ofList ds)).toList.take Value.shownLength)

/-- How a scalar does not fit its tag: no word for a truth value, a number of low lines only, digits
that make no number, or too many of them. -/
inductive ScalarFault : Tag → String → Fault → Prop
  | truth {text : String} (hword : boolNames.lookup (truthWord text) = none) :
      ScalarFault .bool text (.missingKey (Text.Quoted.ofString (truthWord text)))
  | blank {tag : Tag} {text : String} (htag : tag = .int ∨ tag = .float)
      (htext : ∀ c ∈ numberText tag text, c = '_') : ScalarFault tag text (.indexRange "string")
  | integer {text : String} {negative : Bool} {body : List Char}
      (hbody : numberParts (numberText .int text) = .ok (negative, body))
      (hread : Reading.intIn (baseOf body).1 (baseOf body).2 = .malformed) :
      ScalarFault .int text (.invalidInteger (baseOf body).1 (misread (baseOf body).2))
  | tooLong {text : String} {negative : Bool} {body : List Char} {digits : Nat}
      (hbody : numberParts (numberText .int text) = .ok (negative, body))
      (hread : Reading.intIn (baseOf body).1 (baseOf body).2 = .tooLong digits) :
      ScalarFault .int text (.numberTooLong (some digits))
  | decimal {text : String} {negative : Bool} {body : List Char}
      (hbody : numberParts (numberText .float text) = .ok (negative, body))
      (hinf : body ≠ ".inf".toList) (hnan : body ≠ ".nan".toList)
      (hread : Reading.float? body = none) :
      ScalarFault .float text (.invalidFloat (Text.Quoted.ofString (String.ofList body)))

theorem numberParts_eq_error_iff {s : List Char} {e : Failure} :
    numberParts s = .error e ↔ (∀ c ∈ s, c = '_') ∧ e = .fault (.indexRange "string") := by
  have hfilter : s.filter (· != '_') = [] ↔ ∀ c ∈ s, c = '_' := by
    simp [List.filter_eq_nil_iff]
  rw [← hfilter, numberParts.eq_def]
  split
  · next h => simp [h, eq_comm]
  · next h => simp [h]
  · next h => simp [h]
  · next h _ _ => exact iff_of_false nofun fun hall => h hall.1

/-- How an integer is not read: its text makes none, or is too long. -/
theorem readInteger_eq_error_iff {base : Nat} {ds : List Char} {f : Fault} :
    Value.readInteger base ds (.ofChars ds) = .error f ↔
      (Reading.intIn base ds = .malformed ∧ f = .invalidInteger base (misread ds)) ∨
        ∃ n, Reading.intIn base ds = .tooLong n ∧ f = .numberTooLong (some n) := by
  rw [Value.readInteger]
  cases Reading.intIn base ds with
  | ok n => simp
  | tooLong n => simp [eq_comm]
  | malformed =>
      have hwritten :
          (Value.ofChars ds).written = .ok (Text.Quoted.ofString (String.ofList ds)) := by
        rw [Value.ofChars, Value.written]
      rw [hwritten]
      show Except.error (Fault.invalidInteger base (misread ds)) = .error f ↔ _
      simp [eq_comm]

theorem readFloat_eq_error_iff {s : List Char} {f : Fault} :
    Value.readFloat s (.ofChars s) = .error f ↔
      Reading.float? s = none ∧ f = .invalidFloat (Text.Quoted.ofString (String.ofList s)) := by
  rw [Value.readFloat]
  cases Reading.float? s with
  | some x => simp
  | none =>
      have hwritten : (Value.ofChars s).written = .ok (Text.Quoted.ofString (String.ofList s)) := by
        rw [Value.ofChars, Value.written]
      rw [hwritten]
      show Except.error (Fault.invalidFloat _) = .error f ↔ _
      simp [eq_comm]

theorem integer_eq_fault_iff {text : String} {f : Fault} :
    integer text.toList = .error (.fault f) ↔ ScalarFault .int text f := by
  rw [integer, bind_eq_error_iff, numberParts_eq_error_iff]
  constructor
  · rintro (⟨hblank, hf⟩ | ⟨⟨negative, body⟩, hbody, h⟩)
    · cases hf
      exact .blank (.inl rfl) hblank
    · -- behind the sign there is a body, and only reading it can fail
      obtain h | ⟨v, -, h⟩ := bind_eq_error_iff.1 h
      · obtain ⟨f', hf', heq⟩ := mapError_eq_error_iff.1 h
        cases heq
        obtain ⟨hread, rfl⟩ | ⟨n, hread, rfl⟩ := readInteger_eq_error_iff.1 hf'
        · exact .integer hbody hread
        · exact .tooLong hbody hread
      · split at h
        · cases h
        · cases h
  · intro h
    cases h with
    | blank _ hblank => exact .inl ⟨hblank, rfl⟩
    | integer hbody hread =>
        refine .inr ⟨_, hbody, bind_eq_error_iff.2 (.inl (mapError_eq_error_iff.2 ⟨_, ?_, rfl⟩))⟩
        exact readInteger_eq_error_iff.2 (.inl ⟨hread, rfl⟩)
    | tooLong hbody hread =>
        refine .inr ⟨_, hbody, bind_eq_error_iff.2 (.inl (mapError_eq_error_iff.2 ⟨_, ?_, rfl⟩))⟩
        exact readInteger_eq_error_iff.2 (.inr ⟨_, hread, rfl⟩)

theorem decimal_eq_fault_iff {text : String} {f : Fault} :
    decimal text.toList = .error (.fault f) ↔ ScalarFault .float text f := by
  rw [decimal, bind_eq_error_iff, numberParts_eq_error_iff]
  constructor
  · rintro (⟨hblank, hf⟩ | ⟨⟨negative, body⟩, hbody, h⟩)
    · cases hf
      exact .blank (.inr rfl) hblank
    · dsimp only at h
      split at h
      · cases h
      · -- the names of what is no number in digits are tried before it is read
        next hinf =>
          split at h
          · cases h
          · next hnan =>
              obtain h | ⟨v, -, h⟩ := bind_eq_error_iff.1 h
              · obtain ⟨f', hf', heq⟩ := mapError_eq_error_iff.1 h
                cases heq
                obtain ⟨hread, rfl⟩ := readFloat_eq_error_iff.1 hf'
                exact .decimal hbody (fun heq => hinf (beq_iff_eq.2 heq))
                  (fun heq => hnan (beq_iff_eq.2 heq)) hread
              · split at h
                · cases h
                · cases h
  · intro h
    cases h with
    | blank _ hblank => exact .inl ⟨hblank, rfl⟩
    | @decimal _ negative body hbody hinf hnan hread =>
        refine .inr ⟨_, hbody, ?_⟩
        dsimp only
        rw [if_neg (fun h => hinf (beq_iff_eq.1 h)), if_neg (fun h => hnan (beq_iff_eq.1 h))]
        refine bind_eq_error_iff.2 (.inl (mapError_eq_error_iff.2 ⟨_, ?_, rfl⟩))
        exact readFloat_eq_error_iff.2 ⟨hread, rfl⟩

theorem truth_eq_fault_iff {text : String} {f : Fault} :
    truth text.toList = .error (.fault f) ↔ ScalarFault .bool text f := by
  -- the fault shows the word in lower case, in which it is looked for
  have hlower : String.ofList (Text.Unicode.toLower text.toList) = truthWord text := rfl
  rw [truth, hlower]
  cases hword : boolNames.lookup (truthWord text) with
  | some b =>
      refine iff_of_false nofun fun h => ?_
      cases h with
      | truth hnone =>
          rw [hword] at hnone
          cases hnone
      | blank htag _ => simp at htag
  | none =>
      constructor
      · intro h
        cases h
        exact .truth hword
      · intro h
        cases h with
        | truth _ => rfl
        | blank htag _ => simp at htag

/-- A scalar ends in a fault exactly if it does not fit its tag. -/
theorem scalarValue_eq_fault_iff {tag : Tag} {text : String} {f : Fault} :
    scalarValue tag text = .error (.fault f) ↔ ScalarFault tag text f := by
  -- Only truth values and numbers have faults.
  have hnumber (htag : tag ≠ .bool ∧ tag ≠ .int ∧ tag ≠ .float) : ¬ScalarFault tag text f := by
    rintro (_ | ⟨rfl | rfl⟩ | _ | _ | _) <;> simp at htag
  cases tag with
  | bool => exact truth_eq_fault_iff
  | int => exact integer_eq_fault_iff
  | float => exact decimal_eq_fault_iff
  | binary =>
      refine iff_of_false (fun h => ?_) (hnumber (by simp))
      rw [scalarValue, bytes] at h
      split at h
      · split at h
        · cases h
        · cases h
      · cases h
  | null | str | seq | map | set | omap | pairs | merge | value | unknown =>
      exact iff_of_false nofun (hnumber (by simp))

/-! ## Causes -/

/-- Whether a node is a scalar. -/
def Node.isScalar : Node → Bool
  | .scalar .. => true
  | .sequence .. | .mapping .. => false

/-- A place in a node that a fault comes from: a scalar that does not fit its tag, a mapping that
stands for one, or a key that is a collection. -/
inductive Causes (f : Fault) : Node → Prop
  | scalar {tag : Tag} {text : String} (h : ScalarFault tag text f) : Causes f (.scalar tag text)
  | standing {mark : Nat} {tag : Tag} {entries : List (Node × Node)} {text : String}
      (htext : textAmong entries = .ok text) (h : ScalarFault tag text f) :
      Causes f (.mapping mark tag entries)
  | collection {mark : Nat} {tag : Tag} {entries : List (Node × Node)} {k v : Node} {t : String}
      (hentry : (k, v) ∈ entries) (hk : k.isScalar = false) (hf : f = .unhashable t) :
      Causes f (.mapping mark tag entries)
  | item {mark : Nat} {tag : Tag} {items : List Node} {n : Node} (hn : n ∈ items)
      (h : Causes f n) : Causes f (.sequence mark tag items)
  | key {mark : Nat} {tag : Tag} {entries : List (Node × Node)} {k v : Node}
      (hentry : (k, v) ∈ entries) (h : Causes f k) : Causes f (.mapping mark tag entries)
  | value {mark : Nat} {tag : Tag} {entries : List (Node × Node)} {k v : Node}
      (hentry : (k, v) ∈ entries) (h : Causes f v) : Causes f (.mapping mark tag entries)

/-- One of several nodes that a fault comes from. -/
def ItemCauses (items : List Node) (f : Fault) : Prop := ∃ n ∈ items, Causes f n

/-- One of several entries that a fault comes from: its key, its value, or that its key is a
collection. -/
def EntryCauses (entries : List (Node × Node)) (f : Fault) : Prop :=
  ∃ e ∈ entries, Causes f e.1 ∨ Causes f e.2 ∨ e.1.isScalar = false ∧ ∃ t, f = .unhashable t

theorem ItemCauses.tail {n : Node} {ns : List Node} {f : Fault} :
    ItemCauses ns f → ItemCauses (n :: ns) f
  | ⟨m, hm, h⟩ => ⟨m, List.mem_cons_of_mem n hm, h⟩

theorem EntryCauses.tail {e : Node × Node} {es : List (Node × Node)} {f : Fault} :
    EntryCauses es f → EntryCauses (e :: es) f
  | ⟨e', he', h⟩ => ⟨e', List.mem_cons_of_mem e he', h⟩

theorem ItemCauses.causes (mark : Nat) (tag : Tag) {items : List Node} {f : Fault} :
    ItemCauses items f → Causes f (.sequence mark tag items)
  | ⟨_, hn, h⟩ => .item hn h

theorem EntryCauses.causes (mark : Nat) (tag : Tag) {entries : List (Node × Node)} {f : Fault} :
    EntryCauses entries f → Causes f (.mapping mark tag entries)
  | ⟨_, he, .inl h⟩ => .key he h
  | ⟨_, he, .inr (.inl h)⟩ => .value he h
  | ⟨_, he, .inr (.inr ⟨hk, _, hf⟩)⟩ => .collection he hk hf

/-! ## Outcomes with causes -/

/-- Whether a computation has a result of a kind, or a defect, or a fault that has a cause. -/
def Brings {α : Type} (C : Fault → Prop) (P : α → Prop) : Except Failure α → Prop
  | .ok a => P a
  | .error e => ∀ f, e = .fault f → C f

namespace Brings

variable {α β : Type} {C D : Fault → Prop} {P : α → Prop} {Q : β → Prop} {x : Except Failure α}

theorem defect {d : Defect} : Brings C P (.error (.defect d)) := nofun

theorem bind {k : α → Except Failure β} (hx : Brings C P x) (hk : ∀ a, P a → Brings C Q (k a)) :
    Brings C Q (x >>= k) := by
  cases x with
  | ok a => exact hk a hx
  | error e => exact hx

theorem mono {R : α → Prop} (hx : Brings C P x) (hC : ∀ f, C f → D f) (hP : ∀ a, P a → R a) :
    Brings D R x := by
  cases x with
  | ok a => exact hP a hx
  | error e => exact fun f hf => hC f (hx f hf)

end Brings

mutual

/-- What has no text has a defect. -/
theorem brings_text {C : Fault → Prop} : (n : Node) → Brings C (fun _ => True) n.text
  | .scalar .. => by
      rw [Node.text]
      exact trivial
  | .sequence .. => by
      rw [Node.text]
      exact .defect
  | .mapping _ _ entries => by
      rw [Node.text]
      exact brings_textAmong entries

theorem brings_textAmong {C : Fault → Prop} :
    (es : List (Node × Node)) → Brings C (fun _ => True) (textAmong es)
  | [] => by
      rw [textAmong]
      exact .defect
  | (k, v) :: es => by
      rw [textAmong]
      split
      · exact brings_text v
      · exact brings_textAmong es

end

/-! ## Keys -/

theorem exists_of_readInteger {base : Nat} {ds : List Char} {v w : Value}
    (h : Value.readInteger base ds v = .ok w) : ∃ n, w = .int n := by
  rw [Value.readInteger] at h
  split at h
  · cases h
    exact ⟨_, rfl⟩
  · cases h
  · obtain ⟨s, -, hs⟩ := bind_eq_ok_iff.1 h
    cases hs

theorem exists_of_readFloat {s : List Char} {v w : Value} (h : Value.readFloat s v = .ok w) :
    ∃ x, w = .float x := by
  rw [Value.readFloat] at h
  split at h
  · cases h
    exact ⟨_, rfl⟩
  · obtain ⟨s, -, hs⟩ := bind_eq_ok_iff.1 h
    cases hs

/-- The value of a scalar can be a key. -/
theorem unhashable_scalarValue {tag : Tag} {text : String} {v : Value}
    (h : scalarValue tag text = .ok v) : v.unhashable? = none := by
  -- a scalar is no collection, whatever its tag makes of it
  cases tag with
  | null =>
      cases h
      rfl
  | bool =>
      rw [scalarValue, truth] at h
      split at h
      · cases h
        rfl
      · cases h
  | int =>
      rw [scalarValue, integer] at h
      obtain ⟨⟨negative, body⟩, -, h⟩ := bind_eq_ok_iff.1 h
      obtain ⟨w, hw, h⟩ := bind_eq_ok_iff.1 h
      obtain ⟨n, rfl⟩ := exists_of_readInteger (mapError_eq_ok_iff.1 hw)
      cases h
      rfl
  | float =>
      rw [scalarValue, decimal] at h
      obtain ⟨⟨negative, body⟩, -, h⟩ := bind_eq_ok_iff.1 h
      dsimp only at h
      split at h
      · cases h
        rfl
      · split at h
        · cases h
          rfl
        · obtain ⟨w, hw, h⟩ := bind_eq_ok_iff.1 h
          obtain ⟨x, rfl⟩ := exists_of_readFloat (mapError_eq_ok_iff.1 hw)
          cases h
          rfl
  | binary =>
      rw [scalarValue, bytes] at h
      split at h
      · split at h
        · cases h
          rfl
        · cases h
      · cases h
  | str =>
      cases h
      rfl
  | seq | map | set | omap | pairs | merge | value | unknown => cases h

/-- Whether there is a cause for every entry of which the key is none that a dictionary can have. -/
def KeysHaveCause {α : Type} (C : Fault → Prop) (es : List (Value × α)) : Prop :=
  ∀ e ∈ es, ∀ t, e.1.unhashable? = some t → C (.unhashable t)

namespace KeysHaveCause

variable {α : Type} {C D : Fault → Prop} {es fs : List (Value × α)}

theorem mono (h : KeysHaveCause C es) (hC : ∀ f, C f → D f) : KeysHaveCause D es :=
  fun e he t ht => hC _ (h e he t ht)

theorem append (hes : KeysHaveCause C es) (hfs : KeysHaveCause C fs) :
    KeysHaveCause C (es ++ fs) :=
  List.forall_mem_append.2 ⟨hes, hfs⟩

theorem of_append_left (h : KeysHaveCause C (es ++ fs)) : KeysHaveCause C es :=
  (List.forall_mem_append.1 h).1

theorem of_append_right (h : KeysHaveCause C (es ++ fs)) : KeysHaveCause C fs :=
  (List.forall_mem_append.1 h).2

end KeysHaveCause

/-- Adding entries in turn fails with a fault only for a key that a dictionary cannot have. -/
theorem brings_foldlM_addEntry {C : Fault → Prop} {once : Bool} {es done : List (Value × Loaded)}
    (h : KeysHaveCause C es) : Brings C (fun _ => True) (es.foldlM (addEntry once) done) := by
  induction es generalizing done with
  | nil => exact trivial
  | cons e es ih =>
      obtain ⟨he, hes⟩ := List.forall_mem_cons.1 h
      rw [List.foldlM_cons]
      refine Brings.bind (P := fun _ => True) ?_ fun done' _ => ih hes
      rw [addEntry.eq_def]
      split
      · next t ht =>
          intro f hf
          cases hf
          exact he t ht
      · split
        · exact .defect
        · exact trivial

/-- What is made a key can be one if it could be one before, or was a list. -/
theorem brings_toKey {C : Fault → Prop} {v : Value} {p : Prop} (hv : v.unhashable? = none ∨ p) :
    Brings C (fun key => key.unhashable? = none ∨ p) (toKey v) := by
  rw [toKey.eq_def]
  split
  · exact .inr (hv.resolve_left nofun)
  · exact .defect
  · exact .defect
  · exact hv

mutual

/-- What a node stands for can be a key if the node is a scalar, and a fault on the way to it has a
cause in the node. -/
theorem brings_load : (n : Node) →
    Brings (Causes · n) (fun d => d.value.unhashable? = none ∨ n.isScalar = false) n.load
  | .scalar tag text => by
      rw [Node.load]
      cases h : scalarValue tag text with
      | ok v => exact .inl (unhashable_scalarValue h)
      | error e =>
          rintro f rfl
          exact .scalar (scalarValue_eq_fault_iff.1 h)
  | .sequence mark tag items => by
      have hresult (d : Loaded) :
          d.value.unhashable? = none ∨ (Node.sequence mark tag items).isScalar = false :=
        .inr rfl
      have hitems := (brings_loadAll items).mono (fun _ => ItemCauses.causes mark tag)
        fun _ => id
      have hpairs := (brings_pairsOf items).mono (fun _ => ItemCauses.causes mark tag)
        fun _ h => h.mono fun _ => ItemCauses.causes mark tag
      rw [Node.load.eq_def]
      dsimp only
      split
      · exact hitems.bind fun ds _ => hresult _
      · exact hpairs.bind fun es hes => (brings_foldlM_addEntry hes).bind fun _ _ => hresult _
      · exact hpairs.bind fun es _ => hresult _
      all_goals exact .defect
  | .mapping mark tag entries => by
      have hresult (d : Loaded) :
          d.value.unhashable? = none ∨ (Node.mapping mark tag entries).isScalar = false :=
        .inr rfl
      have hentries := (brings_entriesOf entries).mono (fun _ => EntryCauses.causes mark tag)
        fun _ h => h.mono fun _ => EntryCauses.causes mark tag
      rw [Node.load.eq_def]
      dsimp only
      split
      · exact hentries.bind fun es hes => (brings_foldlM_addEntry hes).bind fun _ _ => hresult _
      · exact hentries.bind fun es hes => (brings_foldlM_addEntry hes).bind fun _ _ => hresult _
      · exact .defect
      · exact .defect
      · exact .defect
      · exact .defect
      · exact .defect
      · exact .defect
      · -- under the tag of a scalar a mapping stands for the text among its entries
        cases htext : textAmong entries with
        | error e =>
            have := brings_textAmong (C := (Causes · (Node.mapping mark tag entries))) entries
            rw [htext] at this
            exact this
        | ok text =>
            show Brings _ _ (scalarValue tag text >>= fun v => pure (Loaded.plain v))
            cases h : scalarValue tag text with
            | ok v => exact hresult (.plain v)
            | error e =>
                rintro f rfl
                exact .standing htext (scalarValue_eq_fault_iff.1 h)

theorem brings_loadAll : (ns : List Node) → Brings (ItemCauses ns) (fun _ => True) (loadAll ns)
  | [] => by
      rw [loadAll]
      exact trivial
  | n :: ns => by
      have hn := (brings_load n).mono
        (fun f h => (⟨n, List.mem_cons_self, h⟩ : ItemCauses (n :: ns) f)) fun _ => id
      have hns := (brings_loadAll ns).mono (fun _ => ItemCauses.tail (n := n)) fun _ => id
      rw [loadAll]
      exact hn.bind fun _ _ => hns.bind fun _ _ => trivial

theorem brings_pairsOf :
    (ns : List Node) → Brings (ItemCauses ns) (fun ps =>
      KeysHaveCause (ItemCauses ns) (ps.map fun (k, d) => (k.value, d))) (pairsOf ns)
  | [] => by
      rw [pairsOf]
      exact nofun
  | .mapping mark tag [(k, v)] :: ns => by
      let n := Node.mapping mark tag [(k, v)]
      have hk := (brings_load k).mono (fun f h => (⟨n, List.mem_cons_self,
        .key List.mem_cons_self h⟩ : ItemCauses (n :: ns) f)) fun _ => id
      have hv := (brings_load v).mono (fun f h => (⟨n, List.mem_cons_self,
        .value List.mem_cons_self h⟩ : ItemCauses (n :: ns) f)) fun _ => id
      have hns := (brings_pairsOf ns).mono (fun _ => ItemCauses.tail (n := n)) fun _ => id
      rw [pairsOf]
      refine hk.bind fun key hkey => hv.bind fun value _ => hns.bind fun es hes => ?_
      refine List.forall_mem_cons.2 ⟨fun t ht => ?_, hes.mono fun _ => ItemCauses.tail⟩
      -- a key without a fault of its own is unhashable only as a collection
      have hcollection : k.isScalar = false := hkey.resolve_left fun hnone => by
        rw [hnone] at ht
        cases ht
      exact ⟨n, List.mem_cons_self, .collection List.mem_cons_self hcollection rfl⟩
  | .scalar .. :: _ | .sequence .. :: _ | .mapping _ _ [] :: _
  | .mapping _ _ (_ :: _ :: _) :: _ => by
      rw [pairsOf.eq_def]
      exact .defect

theorem brings_entriesOf : (es : List (Node × Node)) →
    Brings (EntryCauses es) (fun r => KeysHaveCause (EntryCauses es) r.all) (entriesOf es)
  | [] => by
      rw [entriesOf]
      exact nofun
  | (k, v) :: es => by
      have hfirst : (k, v) ∈ (k, v) :: es := List.mem_cons_self
      have hkey (f : Fault) (h : Causes f k) : EntryCauses ((k, v) :: es) f :=
        ⟨(k, v), hfirst, .inl h⟩
      have hvalue (f : Fault) (h : Causes f v) : EntryCauses ((k, v) :: es) f :=
        ⟨(k, v), hfirst, .inr (.inl h)⟩
      have hrest := (brings_entriesOf es).mono (fun _ => EntryCauses.tail (e := (k, v)))
        fun _ h => h.mono fun _ => EntryCauses.tail (e := (k, v))
      rw [entriesOf]
      split
      · -- the entries that are taken over come from the value, unchecked keys included
        have hsource := (brings_sourceOf v).mono hvalue fun _ h => h.mono hvalue
        refine hsource.bind fun more hmore => hrest.bind fun r hr => ?_
        rw [Entries.merge]
        split
        · exact (hmore.append hr.of_append_left).append hr.of_append_right
        · exact .defect
      · have hk := (brings_load k).mono hkey fun _ => id
        have hv := (brings_load v).mono hvalue fun _ => id
        -- what follows the key is the same whether it is a text or made of a value
        have hentry (key : Value) (hhash : key.unhashable? = none ∨ k.isScalar = false) :
            Brings (EntryCauses ((k, v) :: es))
              (fun r => KeysHaveCause (EntryCauses ((k, v) :: es)) r.all)
              (v.load >>= fun value => entriesOf es >>= fun rest =>
                pure { rest with own := (key, value) :: rest.own }) := by
          refine hv.bind fun value _ => hrest.bind fun r hr => ?_
          refine hr.of_append_left.append (List.forall_mem_cons.2 ⟨fun t ht => ?_,
            hr.of_append_right⟩)
          have hcollection : k.isScalar = false := hhash.resolve_left fun hnone => by
            rw [hnone] at ht
            cases ht
          exact ⟨(k, v), hfirst, .inr (.inr ⟨hcollection, t, rfl⟩)⟩
        dsimp only
        split
        · have htext : Brings (EntryCauses ((k, v) :: es))
              (fun key => key.unhashable? = none ∨ k.isScalar = false) (Value.str <$> k.text) :=
            (brings_text k).bind fun _ _ => .inl rfl
          exact htext.bind hentry
        · exact hk.bind fun w hw => (brings_toKey hw).bind hentry

theorem brings_sourceOf :
    (n : Node) → Brings (Causes · n) (KeysHaveCause (Causes · n)) (sourceOf n)
  | .scalar .. => by
      rw [sourceOf]
      exact .defect
  | .sequence mark tag items => by
      rw [sourceOf]
      refine ((brings_sourcesOf items).mono (fun _ => ItemCauses.causes mark tag)
        fun _ => id).bind fun ess hess => ?_
      intro e he t ht
      obtain ⟨es, hes, he⟩ := List.mem_flatten.1 he
      exact (hess es (List.mem_reverse.1 hes) e he t ht).causes mark tag
  | .mapping mark tag entries => by
      rw [sourceOf]
      exact ((brings_entriesOf entries).mono (fun _ => EntryCauses.causes mark tag)
        fun _ h => h.mono fun _ => EntryCauses.causes mark tag).bind fun _ h => h

theorem brings_sourcesOf : (ns : List Node) →
    Brings (ItemCauses ns) (fun ess => ∀ es ∈ ess, KeysHaveCause (ItemCauses ns) es) (sourcesOf ns)
  | [] => by
      rw [sourcesOf]
      exact nofun
  | .mapping mark tag entries :: ns => by
      let n := Node.mapping mark tag entries
      have hhere (f : Fault) (h : EntryCauses entries f) : ItemCauses (n :: ns) f :=
        ⟨n, List.mem_cons_self, h.causes mark tag⟩
      have hentries := (brings_entriesOf entries).mono hhere fun _ h => h.mono hhere
      have hrest := (brings_sourcesOf ns).mono (fun _ => ItemCauses.tail (n := n))
        fun _ h es hes => (h es hes).mono fun _ => ItemCauses.tail (n := n)
      rw [sourcesOf]
      exact hentries.bind fun r hr => hrest.bind fun ess hess => List.forall_mem_cons.2 ⟨hr, hess⟩
  | .scalar .. :: _ | .sequence .. :: _ => by
      rw [sourcesOf.eq_def]
      exact .defect

end

/-! ## Documents -/

/-- A text that ends in a fault is a document, and the fault has a cause in it. -/
theorem exists_causes_of_load {text : String} {f : Fault} (h : load text = .error (.fault f)) :
    ∃ n, nodeOf text = .ok (some n) ∧ Causes f n := by
  rw [load] at h
  obtain h | ⟨n?, hn, h⟩ := bind_eq_error_iff.1 h
  · obtain ⟨d, -, hd⟩ := mapError_eq_error_iff.1 h
    cases hd
  · cases n? with
    | none => cases h
    | some n =>
        have hfault : n.load = .error (.fault f) := h
        have hbrings := brings_load n
        rw [hfault] at hbrings
        exact ⟨n, mapError_eq_ok_iff.1 hn, hbrings f rfl⟩

/-- The classes of the faults that documents end in. -/
def faultClasses : List FaultClass := [.index, .key, .valueError, .typeError]

theorem ScalarFault.faultClass_mem {tag : Tag} {text : String} {f : Fault}
    (h : ScalarFault tag text f) : f.faultClass ∈ faultClasses := by
  cases h with
  | truth =>
      show FaultClass.key ∈ faultClasses
      decide
  | blank =>
      show FaultClass.index ∈ faultClasses
      decide
  | integer | tooLong | decimal =>
      show FaultClass.valueError ∈ faultClasses
      decide

theorem Causes.faultClass_mem {f : Fault} {n : Node} (h : Causes f n) :
    f.faultClass ∈ faultClasses := by
  induction h with
  | scalar h | standing _ h => exact h.faultClass_mem
  | collection _ _ hf =>
      rw [hf]
      show FaultClass.typeError ∈ faultClasses
      decide
  | item _ _ ih | key _ _ ih | value _ _ ih => exact ih

end Curly.Yaml
