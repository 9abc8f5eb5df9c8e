import Curly.Helper
import Curly.Scope
import Mathlib.Data.List.Nodup

/-!
The names of loops: every loop has names of its own. A name of a loop is what leads the names, then
a stem without digits, different for the item, the index and the items, and then the number of the
loop; so behind the lead both can be read back, and no name without a digit is one of them.

The scopes of loops: a loop that is opened inside of another has the names of this one in its scope,
too, and so on outwards.
-/

namespace Curly

namespace LoopNames

variable {lead : String}

/-- The stems of the names of loops. -/
def stems : List (List Char) := ["item_".toList, "index_".toList, "items_".toList]

theorem not_isDigit_of_mem_stems {stem : List Char} (hs : stem ∈ stems) :
    ∀ c ∈ stem, c.isDigit = false := by
  have hstems : stems.all (·.all (!·.isDigit)) = true := by decide
  have hstem : stem.all (!·.isDigit) = true := List.all_eq_true.1 hstems stem hs
  intro c hc
  simpa using List.all_eq_true.1 hstem c hc

/-- A stem and a number can be read back. -/
theorem eq_of_stem_append_toDigits {s t : List Char} {n k : Nat} (hs : s ∈ stems) (ht : t ∈ stems)
    (h : s ++ Nat.toDigits 10 n = t ++ Nat.toDigits 10 k) : s = t ∧ n = k := by
  have hdigits (i : Nat) : ∀ c ∈ Nat.toDigits 10 i, c.isDigit = true := fun c hc =>
    Nat.isDigit_of_mem_toDigits (by decide) (by decide) hc
  -- A stem holds no digits, so it is what is left of the name without them.
  have hstem {u : List Char} (hu : u ∈ stems) (i : Nat) :
      (u ++ Nat.toDigits 10 i).filter (fun c => !c.isDigit) = u := by
    rw [List.filter_append, List.filter_eq_self.2, List.filter_eq_nil_iff.2, List.append_nil]
    · intro c hc
      simp [hdigits i c hc]
    · intro c hc
      simp [not_isDigit_of_mem_stems hu c hc]
  have hst : s = t := by rw [← hstem hs n, h, hstem ht k]
  subst hst
  refine ⟨rfl, ?_⟩
  have hnk : Nat.toDigits 10 n = Nat.toDigits 10 k := List.append_cancel_left h
  rw [← Nat.ofDigitChars_toDigits (b := 10) (n := n) (by decide) (by decide), hnk,
    Nat.ofDigitChars_toDigits (by decide) (by decide)]

/-- The names of a loop are the stems between what leads them and the number of the loop. -/
theorem toList_all (lead : String) (n : Nat) : (numbered lead n).all.map String.toList =
    stems.map fun stem => lead.toList ++ (stem ++ Nat.toDigits 10 n) := by
  simp [numbered, all, stems, toString]

theorem toList_of_mem_all {id : String} {n : Nat} (h : id ∈ (numbered lead n).all) :
    ∃ stem ∈ stems, id.toList = lead.toList ++ (stem ++ Nat.toDigits 10 n) := by
  have hmem : id.toList ∈ (numbered lead n).all.map String.toList := List.mem_map_of_mem h
  rw [toList_all] at hmem
  obtain ⟨stem, hs, hid⟩ := List.mem_map.1 hmem
  exact ⟨stem, hs, hid.symm⟩

/-- A name belongs to one loop only. -/
theorem number_eq_of_mem_all {id : String} {n k : Nat} (hn : id ∈ (numbered lead n).all)
    (hk : id ∈ (numbered lead k).all) : n = k := by
  obtain ⟨s, hs, hid⟩ := toList_of_mem_all hn
  obtain ⟨t, ht, hid'⟩ := toList_of_mem_all hk
  have hst := List.append_cancel_left (hid.symm.trans hid')
  exact (eq_of_stem_append_toDigits hs ht hst).2

/-- The three names of a loop are different. -/
theorem nodup_all (lead : String) (n : Nat) : (numbered lead n).all.Nodup := by
  apply List.Nodup.of_map String.toList
  rw [toList_all]
  have hstems : stems.Nodup := by decide
  refine List.Nodup.map_on ?_ hstems
  intro s hs t ht h
  exact (eq_of_stem_append_toDigits hs ht (List.append_cancel_left h)).1

/-- A name without a digit belongs to no loop. -/
theorem not_mem_all_of_not_isDigit {id : String} (hid : id.toList.all (!·.isDigit) = true)
    (n : Nat) : id ∉ (numbered lead n).all := by
  intro h
  obtain ⟨stem, -, heq⟩ := toList_of_mem_all h
  obtain ⟨c, hc⟩ := List.exists_mem_of_ne_nil _ (Nat.toDigits_ne_nil (n := n) (b := 10))
  have hdigit : c.isDigit = true := Nat.isDigit_of_mem_toDigits (by decide) (by decide) hc
  have hmem : c ∈ lead.toList ++ (stem ++ Nat.toDigits 10 n) :=
    List.mem_append_right _ (List.mem_append_right stem hc)
  have hplain : c.isDigit = false := by
    simpa using List.all_eq_true.1 hid c (heq ▸ hmem)
  rw [hdigit] at hplain
  cases hplain

/-! ### Fresh names -/

/-- The names of generated code that do not belong to loops. -/
def reserved : List String :=
  [contextName, resultName, appendName, extendName] ++ Helper.all.map Helper.name

/-- Loops whose names are all different, and different from the other names of generated code. -/
structure AreFresh (loops : List LoopNames) : Prop where
  nodup : (loops.flatMap all).Nodup
  not_reserved : ∀ id ∈ loops.flatMap all, id ∉ reserved

/-- The names of the first loops. -/
def firstLoops (lead : String) (n : Nat) : List LoopNames :=
  (List.range n).map fun i => numbered lead (i + 1)

theorem firstLoops_succ (lead : String) (n : Nat) :
    firstLoops lead (n + 1) = firstLoops lead n ++ [numbered lead (n + 1)] := by
  simp [firstLoops, List.range_succ]

/-- **Loops that are numbered have fresh names**, whatever leads the names. -/
theorem areFresh_firstLoops (lead : String) (n : Nat) : AreFresh (firstLoops lead n) := by
  constructor
  · rw [firstLoops, List.flatMap_map, List.nodup_flatMap]
    refine ⟨fun i _ => nodup_all lead (i + 1), ?_⟩
    refine List.nodup_range.imp fun {i j} hij id hi hj => hij ?_
    exact Nat.succ.inj (number_eq_of_mem_all hi hj)
  · intro id hid hreserved
    rw [firstLoops, List.flatMap_map, List.mem_flatMap] at hid
    obtain ⟨i, -, hid⟩ := hid
    have hall : ∀ name ∈ reserved, name.toList.all (!·.isDigit) = true := by decide
    exact not_mem_all_of_not_isDigit (hall id hreserved) (i + 1) hid

end LoopNames

/-! ### Scopes -/

/-- A scope that consists of the loops with some numbers, the innermost first: as deep as there are
loops, and binding their names and no others. -/
structure Scope.ConsistsOf (s : Scope) (lead : String) (numbers : List Nat) : Prop where
  chain : s = numbers.map (LoopNames.numbered lead)
  depth : s.length = numbers.length
  bound : ∀ id, id ∈ s.boundNames ↔ ∃ n ∈ numbers, id ∈ (LoopNames.numbered lead n).all

theorem Scope.consistsOf_map (lead : String) (numbers : List Nat) :
    Scope.ConsistsOf (numbers.map (LoopNames.numbered lead)) lead numbers where
  chain := rfl
  depth := List.length_map _
  bound := fun id => by rw [boundNames, List.flatMap_map, List.mem_flatMap]

/-- Every loop is opened behind its parent. -/
def AreEarlier (parents : List (Option Nat)) : Prop :=
  ∀ i j : Nat, parents[i]? = some (some j) → j < i

/-- The loops from one outwards: the loop itself, and then those from its parent outwards. -/
inductive Outwards (parents : List (Option Nat)) : Option Nat → List Nat → Prop
  | none : Outwards parents none []
  | some {i : Nat} {parent : Option Nat} {loops : List Nat} (hparent : parents[i]? = some parent)
      (hloops : Outwards parents parent loops) : Outwards parents (some i) (i :: loops)

/-- Loops that are opened later do not matter. -/
theorem Outwards.append {parents : List (Option Nat)} {i : Option Nat} {loops : List Nat}
    (h : Outwards parents i loops) (more : List (Option Nat)) :
    Outwards (parents ++ more) i loops := by
  induction h with
  | none => exact .none
  | @some i parent loops hparent hloops ih =>
    obtain ⟨hi, -⟩ := List.getElem?_eq_some_iff.1 hparent
    exact .some ((List.getElem?_append_left hi).trans hparent) ih

namespace LoopCounter

/-- Opens loops in turn, behind loops with some scopes: each inside of the one at an index, or
inside of none. -/
def openAll (c : LoopCounter) (scopes : List Scope) : List (Option Nat) → List Scope
  | [] => scopes
  | parent :: parents =>
    let around := (parent.bind (scopes[·]?)).getD []
    openAll c.next.2 (scopes ++ [c.next.1 :: around]) parents

/-- The scopes of loops that were opened inside of their parents: the loops have the first names in
turn, and the scope of each one consists of the loops from it outwards. -/
structure AreChains (lead : String) (parents : List (Option Nat)) (scopes : List Scope) : Prop where
  heads : scopes.map List.head? = (LoopNames.firstLoops lead parents.length).map some
  chain : ∀ i s, scopes[i]? = some s → ∃ loops, Outwards parents (some i) loops ∧
    s.ConsistsOf lead (loops.map (· + 1))

namespace AreChains

variable {lead : String} {parents : List (Option Nat)} {scopes : List Scope}

theorem length_eq (h : AreChains lead parents scopes) : scopes.length = parents.length := by
  simpa [LoopNames.firstLoops] using congrArg List.length h.heads

/-- The next loop is opened inside of one of those before it, or inside of none. -/
theorem snoc (h : AreChains lead parents scopes) {parent : Option Nat}
    (hparent : ∀ j, parent = some j → j < parents.length) :
    AreChains lead (parents ++ [parent]) (scopes ++
      [LoopNames.numbered lead (parents.length + 1) :: (parent.bind (scopes[·]?)).getD []]) where
  heads := by
    rw [List.length_append, List.length_singleton, LoopNames.firstLoops_succ, List.map_append,
      List.map_append, h.heads]
    rfl
  chain := by
    intro i s hs
    obtain hi | rfl | hi := Nat.lt_trichotomy i scopes.length
    · -- the scope of a loop that was open before, which the new one does not change
      rw [List.getElem?_append_left hi] at hs
      obtain ⟨loops, hloops, hs⟩ := h.chain i s hs
      exact ⟨loops, hloops.append _, hs⟩
    · -- the scope of the new loop: its names in front of the scope of its parent
      rw [List.getElem?_concat_length] at hs
      cases hs
      have hlast : (parents ++ [parent])[scopes.length]? = some parent := by
        rw [h.length_eq, List.getElem?_concat_length]
      have haround : ∃ loops, Outwards (parents ++ [parent]) parent loops ∧
          (parent.bind (scopes[·]?)).getD [] =
            (loops.map (· + 1)).map (LoopNames.numbered lead) := by
        cases parent with
        | none => exact ⟨[], .none, rfl⟩
        | some j =>
          have hj : j < scopes.length := h.length_eq ▸ hparent j rfl
          obtain ⟨loops, hloops, hs⟩ := h.chain j scopes[j] (List.getElem?_eq_getElem hj)
          refine ⟨loops, hloops.append _, ?_⟩
          rw [Option.bind_some, List.getElem?_eq_getElem hj, Option.getD_some, hs.chain]
      obtain ⟨loops, hloops, haround⟩ := haround
      refine ⟨scopes.length :: loops, .some hlast hloops, ?_⟩
      rw [haround, ← h.length_eq]
      exact Scope.consistsOf_map lead ((scopes.length :: loops).map (· + 1))
    · rw [List.getElem?_eq_none (by simpa using Nat.succ_le_of_lt hi)] at hs
      cases hs

end AreChains

/-- Loops that are opened behind others. -/
theorem areChains_openAll_of {c : LoopCounter} {done parents : List (Option Nat)}
    {scopes : List Scope} (hdone : AreChains c.lead done scopes) (hc : c.opened = done.length)
    (hparents : AreEarlier (done ++ parents)) :
    AreChains c.lead (done ++ parents) (openAll c scopes parents) := by
  induction parents generalizing c done scopes with
  | nil => rwa [List.append_nil]
  | cons parent parents ih =>
    -- the step: the loops that are done are one more, and all of them together are the same
    have hnext : AreChains c.lead (done ++ [parent])
        (scopes ++ [c.next.1 :: (parent.bind (scopes[·]?)).getD []]) := by
      rw [next, hc]
      refine hdone.snoc fun j hj => hparents done.length j ?_
      rw [List.getElem?_append_right (Nat.le_refl _), Nat.sub_self, hj, List.getElem?_cons_zero]
    rw [openAll, List.append_cons]
    refine ih (c := c.next.2) hnext ?_ ?_
    · rw [next, hc, List.length_append, List.length_singleton]
    · rwa [← List.append_cons]

/-- **Scopes are chains of parents.** Loops that are opened in turn, each inside of any that is open
already or of none, have the first names in turn, and the scope of each consists of the loops from
it outwards. -/
theorem areChains_openAll (lead : String) {parents : List (Option Nat)}
    (hparents : AreEarlier parents) :
    AreChains lead parents (openAll { lead := lead } [] parents) := by
  have hnone : AreChains lead [] [] := ⟨rfl, nofun⟩
  exact areChains_openAll_of (c := { lead := lead }) hnone rfl hparents

/-- A loop, two loops inside of it, and one that is on its own. -/
example : openAll { lead := "v1" } [] [none, some 0, some 0, none] =
    [[⟨"v1item_1", "v1index_1", "v1items_1"⟩],
      [⟨"v1item_2", "v1index_2", "v1items_2"⟩, ⟨"v1item_1", "v1index_1", "v1items_1"⟩],
      [⟨"v1item_3", "v1index_3", "v1items_3"⟩, ⟨"v1item_1", "v1index_1", "v1items_1"⟩],
      [⟨"v1item_4", "v1index_4", "v1items_4"⟩]] := by
  decide +kernel

end LoopCounter

end Curly
