import Curly.Text.Space
import Curly.Text.Unicode.Letter

/-!
White space stands in no word. In ASCII the classes decide it; beyond, the tables of letters and
numbers do, none of whose runs holds one of the wide spaces.
-/

namespace Curly.Text.Unicode

/-- The runs of a table, from its characters. -/
def Ranges.ofChars (l : List Char) : Ranges :=
  ((l.splitBy fun a b => !a.isWhitespace && !b.isWhitespace).filter
    fun w => !w.any Char.isWhitespace).map fun w =>
      match before '-' w with
      | (lo, some hi) => (readHex lo, readHex hi)
      | (lo, none) => (readHex lo, readHex lo)

/-- The tables are too long to be taken apart as strings, but not as lists. -/
theorem Ranges.all_ofText {table : String} {l : List Char} {p : Nat × Nat → Bool}
    (htable : table = String.ofList l) (hl : (Ranges.ofChars l).all p = true) :
    (Ranges.ofText table).all p = true := by
  rw [htable, Ranges.ofText, entries, String.toList_ofList]
  exact hl

/-- The white space beyond ASCII. -/
def wideSpaces : List Nat :=
  [0x85, 0xA0, 0x1680, 0x2000, 0x2001, 0x2002, 0x2003, 0x2004, 0x2005, 0x2006, 0x2007, 0x2008,
    0x2009, 0x200A, 0x2028, 0x2029, 0x202F, 0x205F, 0x3000]

theorem mem_wideSpaces {c : Char} (hc : isSpace c = true) (hwide : 128 ≤ c.toNat) :
    c.toNat ∈ wideSpaces := by
  simp only [isSpace, Bool.or_eq_true, Bool.and_eq_true, decide_eq_true_eq, beq_iff_eq] at hc
  simp only [wideSpaces, List.mem_cons, List.not_mem_nil, or_false]
  omega

/-- Whether a run holds none of the wide spaces. -/
def isClear (run : Nat × Nat) : Bool := wideSpaces.all fun n => !(run.1 ≤ n && n ≤ run.2)

theorem contains_eq_false {r : Ranges} (hr : r.all isClear = true) {c : Char}
    (hc : isSpace c = true) (hwide : 128 ≤ c.toNat) : r.contains c = false := by
  have hmem := mem_wideSpaces hc hwide
  rw [Ranges.contains, Ranges.start?, Option.isSome_map, Bool.eq_false_iff, ne_eq,
    List.find?_isSome]
  rintro ⟨run, hrun, hin⟩
  have hclear := List.all_eq_true.1 (List.all_eq_true.1 hr run hrun) c.toNat hmem
  have hin : (decide (run.1 ≤ c.toNat) && decide (c.toNat ≤ run.2)) = true := hin
  rw [hin] at hclear
  cases hclear

section Tables

set_option maxRecDepth 100000

theorem letterRanges_clear : letterRanges.all isClear = true := by
  refine Ranges.all_ofText rfl ?_
  decide +kernel

theorem decimalRanges_clear : decimalRanges.all isClear = true := by
  refine Ranges.all_ofText rfl ?_
  decide +kernel

theorem digitRanges_clear : digitRanges.all isClear = true := by
  refine Ranges.all_ofText rfl ?_
  decide +kernel

theorem numberRanges_clear : numberRanges.all isClear = true := by
  refine Ranges.all_ofText rfl ?_
  decide +kernel

end Tables

theorem start?_eq_none {r : Ranges} {c : Char} (h : r.contains c = false) : r.start? c = none := by
  rw [Ranges.contains] at h
  simpa using h

/-- White space stands in no word. -/
theorem isWord_of_isSpace {c : Char} (hc : isSpace c = true) : isWord c = false := by
  by_cases hwide : 128 ≤ c.toNat
  · have hlow : (c == '_') = false := by
      rw [beq_eq_false_iff_ne]
      rintro rfl
      exact absurd hc (by decide)
    have hnarrow : ¬c.toNat < 128 := Nat.not_lt.2 hwide
    have hdecimal := start?_eq_none (contains_eq_false decimalRanges_clear hc hwide)
    simp [isWord, isAlphanumeric, isLetter, isNumeric, isDigit, isDecimal, decimalValue, hlow,
      hnarrow, hdecimal, contains_eq_false letterRanges_clear hc hwide,
      contains_eq_false digitRanges_clear hc hwide, contains_eq_false numberRanges_clear hc hwide]
  · -- in ASCII there are few enough of them
    have hascii : ∀ n < 128, isSpace (Char.ofNat n) = true → isWord (Char.ofNat n) = false := by
      decide
    have h := hascii c.toNat (Nat.not_le.1 hwide)
    rw [Char.ofNat_toNat] at h
    exact h hc

end Curly.Text.Unicode
