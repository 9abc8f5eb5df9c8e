import Curly.Proofs.Expr.Adjacent

/-!
Rows of strings in the parser. The parser takes adjacent strings as one, so what it reads does not
depend on how a text is cut into strings: where two lists of lexemes differ in nothing else, it
reads the same from both. This is shown for each function of the parser, for any depth of descent
and a depth that is no less, by induction on the first.
-/

namespace Curly

namespace Parse

open Lexeme

/-! ## Joining strings -/

/-- Two strings that can be joined: both text, marked as the first is, or both bytes. -/
inductive Joins : Literal → Literal → Literal → Prop
  | str (s t : String) (marked marked' : Bool) :
      Joins (.str s marked) (.str t marked') (.str (s ++ t) marked)
  | bytes (b c : List UInt8) : Joins (.bytes b) (.bytes c) (.bytes (b ++ c))

theorem joinStrings_cons_eq_some_iff {p q l : Literal} {qs : List Literal} :
    joinStrings p (q :: qs) = some l ↔ ∃ m, Joins p q m ∧ joinStrings m qs = some l := by
  constructor
  · intro h
    unfold joinStrings at h
    split at h
    · rename_i heq
      cases heq
    · rename_i heq
      cases heq
      exact ⟨_, .str .., h⟩
    · rename_i heq
      cases heq
      exact ⟨_, .bytes .., h⟩
    · cases h
  · rintro ⟨m, hjoins, h⟩
    cases hjoins with
    | str => exact h
    | bytes => exact h

theorem joinStrings_singleton_eq_some_iff {p q l : Literal} :
    joinStrings p [q] = some l ↔ Joins p q l := by
  have hnil (m : Literal) : joinStrings m [] = some m := by rw [joinStrings]
  rw [joinStrings_cons_eq_some_iff]
  constructor
  · rintro ⟨m, hjoins, h⟩
    rw [hnil] at h
    cases h
    exact hjoins
  · intro h
    exact ⟨l, h, hnil l⟩

/-- It does not matter which of three strings are joined first. -/
theorem Joins.assoc {p q r l : Literal} :
    (∃ m, Joins p q m ∧ Joins m r l) ↔ ∃ m, Joins q r m ∧ Joins p m l := by
  -- all three are texts, or all three are bytes
  constructor
  · rintro ⟨m, hpq, hmr⟩
    cases hpq with
    | str s t marked marked' =>
        cases hmr with
        | str _ u _ marked'' =>
            rw [String.append_assoc]
            exact ⟨_, .str t u marked' marked'', .str ..⟩
    | bytes b c =>
        cases hmr with
        | bytes _ d =>
            rw [List.append_assoc]
            exact ⟨_, .bytes c d, .bytes ..⟩
  · rintro ⟨m, hqr, hpm⟩
    cases hqr with
    | str t u marked' marked'' =>
        cases hpm with
        | str s _ marked =>
            rw [← String.append_assoc]
            exact ⟨_, .str s t marked marked', .str ..⟩
    | bytes c d =>
        cases hpm with
        | bytes b =>
            rw [← List.append_assoc]
            exact ⟨_, .bytes b c, .bytes ..⟩

/-- The strings behind the first one may be joined before it is. -/
theorem joinStrings_cons_eq_some_iff' {p q l : Literal} {qs : List Literal} :
    joinStrings p (q :: qs) = some l ↔ ∃ m, joinStrings q qs = some m ∧ Joins p m l := by
  induction qs generalizing p q l with
  | nil =>
      have hq (m : Literal) : joinStrings q [] = some m ↔ q = m := by
        rw [joinStrings, Option.some.injEq]
      rw [joinStrings_singleton_eq_some_iff]
      simp only [hq, exists_eq_left']
  -- Joining is associative where it succeeds, which moves the first string past the second.
  | cons r rs ih =>
      rw [joinStrings_cons_eq_some_iff]
      constructor
      · rintro ⟨m, hpq, h⟩
        obtain ⟨x, hx, hmx⟩ := ih.1 h
        obtain ⟨y, hqx, hpy⟩ := Joins.assoc.1 ⟨m, hpq, hmx⟩
        exact ⟨y, ih.2 ⟨x, hx, hqx⟩, hpy⟩
      · rintro ⟨y, hy, hpy⟩
        obtain ⟨x, hx, hqx⟩ := ih.1 hy
        obtain ⟨m, hpq, hmx⟩ := Joins.assoc.2 ⟨y, hqx, hpy⟩
        exact ⟨m, hpq, ih.2 ⟨x, hx, hmx⟩⟩

end Parse

namespace Lexeme

open Parse

variable {k k' : Lexeme} {p q l : Literal} {ls ls' rest : List Lexeme}

/-- A string in front of lexemes, joined to a string that they begin with. -/
def joinFront (p : Literal) : List Lexeme → List Lexeme
  | .string q :: ls =>
    match joinStrings p [q] with
    | some l => .string l :: ls
    | none => .string p :: .string q :: ls
  | ls => .string p :: ls

/-- Lexemes with adjacent strings joined, unless one is text and the other bytes. -/
def joined : List Lexeme → List Lexeme
  | .string p :: ls => joinFront p (joined ls)
  | k :: ls => k :: joined ls
  | [] => []

theorem joined_cons (hk : ∀ q, k ≠ .string q) (ls : List Lexeme) :
    joined (k :: ls) = k :: joined ls := by
  rw [joined]
  exact hk

/-- A string in front stays in front. -/
theorem exists_joinFront (p : Literal) (ls : List Lexeme) :
    ∃ q rest, joinFront p ls = .string q :: rest := by
  unfold joinFront
  split
  · split
    · exact ⟨_, _, rfl⟩
    · exact ⟨_, _, rfl⟩
  · exact ⟨_, _, rfl⟩

/-- Whether lists of lexemes differ at most in how their texts are cut into strings. -/
def Alike (ls ls' : List Lexeme) : Prop := joined ls = joined ls'

theorem Alike.append (h : Alike ls ls') (ks : List Lexeme) : Alike (ks ++ ls) (ks ++ ls') := by
  induction ks with
  | nil => exact h
  | cons k ks ih =>
      rw [Alike] at ih
      rw [Alike, List.cons_append, List.cons_append]
      cases k with
      | string p => rw [joined, joined, ih]
      | name | keyword | number | op => exact congrArg (_ :: ·) ih

theorem Alike.symm (h : Alike ls ls') : Alike ls' ls := Eq.symm h

/-- What begins with a lexeme that is no string is like what begins with the same. -/
theorem Alike.exists_cons (hk : ∀ q, k ≠ .string q) (h : Alike (k :: ls) ls') :
    ∃ rest, ls' = k :: rest ∧ Alike ls rest := by
  rw [Alike, joined_cons hk] at h
  match ls' with
  | [] => cases h
  | .string p :: rest =>
      obtain ⟨q, rest', heq⟩ := exists_joinFront p (joined rest)
      rw [joined, heq] at h
      exact absurd (List.cons.inj h).1 (hk q)
  | .name _ :: rest | .keyword _ :: rest | .number _ :: rest | .op _ :: rest =>
      obtain ⟨rfl, hrest⟩ := List.cons.inj h
      exact ⟨rest, rfl, hrest⟩

theorem Alike.head?_iff (hk : ∀ q, k ≠ .string q) (h : Alike ls ls') :
    ls.head? = some k ↔ ls'.head? = some k := by
  constructor
  · intro hhead
    obtain ⟨rest, rfl⟩ := List.head?_eq_some_iff.1 hhead
    obtain ⟨rest', rfl, -⟩ := h.exists_cons hk
    rfl
  · intro hhead
    obtain ⟨rest, rfl⟩ := List.head?_eq_some_iff.1 hhead
    obtain ⟨rest', rfl, -⟩ := h.symm.exists_cons hk
    rfl

theorem Alike.isEmpty (h : Alike ls ls') : ls.isEmpty = ls'.isEmpty := by
  have hnil {ls : List Lexeme} : ls.isEmpty = (joined ls).isEmpty := by
    match ls with
    | [] => rfl
    | .string p :: rest =>
        obtain ⟨q, rest', heq⟩ := exists_joinFront p (joined rest)
        rw [joined, heq]
        rfl
    | .name _ :: rest | .keyword _ :: rest | .number _ :: rest | .op _ :: rest => rfl
  rw [hnil, h, ← hnil]

/-- Lists that are alike begin with the same lexeme, or both with a string. -/
theorem Alike.head?_cases (h : Alike ls ls') :
    (ls.head? = ls'.head? ∧ ∀ q, ls.head? ≠ some (.string q)) ∨
      ∃ q q', ls.head? = some (.string q) ∧ ls'.head? = some (.string q') := by
  match ls, ls' with
  | [], [] => exact .inl ⟨rfl, nofun⟩
  | [], k :: rest => cases h.isEmpty
  | k :: rest, [] => cases h.isEmpty
  | .string q :: rest, .string q' :: rest' => exact .inr ⟨q, q', rfl, rfl⟩
  -- A lexeme that is no string is the first one on both sides, whichever side it is seen on.
  | .name _ :: _, k' :: rest' | .keyword _ :: _, k' :: rest' | .number _ :: _, k' :: rest'
  | .op _ :: _, k' :: rest' =>
      obtain ⟨_, heq, -⟩ := h.exists_cons (by nofun)
      exact .inl ⟨by rw [heq]; rfl, nofun⟩
  | .string q :: rest, .name _ :: _ | .string q :: rest, .keyword _ :: _
  | .string q :: rest, .number _ :: _ | .string q :: rest, .op _ :: _ =>
      obtain ⟨_, heq, -⟩ := h.symm.exists_cons (by nofun)
      cases heq

/-- Joining to a joined string is joining twice. -/
theorem joinFront_joinFront (h : Joins p q l) (ls : List Lexeme) :
    joinFront p (joinFront q ls) = joinFront l ls := by
  have hpair : joinFront p (.string q :: ls) = .string l :: ls := by
    rw [joinFront, joinStrings_singleton_eq_some_iff.2 h]
  match ls with
  | .string r :: ls =>
      cases hqr : joinStrings q [r] with
      | none =>
          have hlr : joinStrings l [r] = none := by
            refine Option.eq_none_iff_forall_not_mem.2 fun m hm => ?_
            obtain ⟨x, hx, -⟩ := Joins.assoc.1 ⟨l, h, joinStrings_singleton_eq_some_iff.1 hm⟩
            rw [joinStrings_singleton_eq_some_iff.2 hx] at hqr
            cases hqr
          have hq : joinFront q (.string r :: ls) = .string q :: .string r :: ls := by
            rw [joinFront, hqr]
          rw [hq, hpair, joinFront, hlr]
      | some m =>
          -- all three are text, or all three are bytes
          have hm := joinStrings_singleton_eq_some_iff.1 hqr
          cases h with
          | str =>
              cases hm with
              | str => simp [joinFront, joinStrings, String.append_assoc]
          | bytes =>
              cases hm with
              | bytes => simp [joinFront, joinStrings, List.append_assoc]
  | [] | .name _ :: _ | .keyword _ :: _ | .number _ :: _ | .op _ :: _ => exact hpair

/-- A row of strings is like the string that they make. -/
theorem alike_row {q l : Literal} {qs : List Literal} (h : joinStrings q qs = some l)
    (ls : List Lexeme) : Alike ((q :: qs).map .string ++ ls) (.string l :: ls) := by
  induction qs generalizing q l with
  | nil =>
      rw [joinStrings] at h
      cases h
      rfl
  | cons r rs ih =>
      obtain ⟨m, hm, hjoins⟩ := joinStrings_cons_eq_some_iff'.1 h
      have hrest : joined ((r :: rs).map .string ++ ls) = joinFront m (joined ls) := ih hm
      show joinFront q (joined ((r :: rs).map .string ++ ls)) = joinFront l (joined ls)
      rw [hrest, joinFront_joinFront hjoins]

end Lexeme

namespace Parse

open Lexeme

variable {ls ls' rest : List Lexeme} {l : Literal}

/-! ## Taking strings -/

/-- Whether lexemes begin with no string. -/
def NoString (ls : List Lexeme) : Prop := ∀ q, ls.head? ≠ some (.string q)

theorem leadingStrings_of_noString (h : NoString ls) : leadingStrings ls = [] := by
  match ls with
  | [] => rfl
  | .string q :: _ => exact absurd rfl (h q)
  | .name _ :: _ | .keyword _ :: _ | .number _ :: _ | .op _ :: _ => rfl

theorem noString_joined (h : NoString ls) : NoString (joined ls) := by
  match ls with
  | [] => exact h
  | .string q :: _ => exact absurd rfl (h q)
  | .name _ :: _ | .keyword _ :: _ | .number _ :: _ | .op _ :: _ => exact h

theorem joinFront_of_noString (h : NoString ls) (q : Literal) :
    joinFront q ls = .string q :: ls := by
  match ls with
  | [] => rfl
  | .string q :: _ => exact absurd rfl (h q)
  | .name _ :: _ | .keyword _ :: _ | .number _ :: _ | .op _ :: _ => rfl

/-- Lexemes begin with a string, or they do not. -/
theorem noString_or_exists (ls : List Lexeme) : NoString ls ∨ ∃ r rest, ls = .string r :: rest := by
  match ls with
  | .string r :: rest => exact .inr ⟨r, rest, rfl⟩
  | [] | .name _ :: _ | .keyword _ :: _ | .number _ :: _ | .op _ :: _ => exact .inl nofun

theorem strings_of_noString (h : NoString ls) (q : Literal) :
    strings (.string q :: ls) = some (.literal q, ls) := by
  rw [strings_cons, leadingStrings_of_noString h, joinStrings]
  rfl

/-- A string is joined to those behind it. -/
theorem strings_cons_eq_some_iff {q r : Literal} :
    strings (.string q :: .string r :: ls) = some (.literal l, rest) ↔
      ∃ m, strings (.string r :: ls) = some (.literal m, rest) ∧ Joins q m l := by
  simp only [strings_cons, Option.map_eq_some_iff, Prod.mk.injEq, Expr.literal.injEq,
    leadingStrings, joinStrings_cons_eq_some_iff', List.length_cons, List.drop_succ_cons]
  constructor
  · rintro ⟨_, ⟨m, hm, hjoins⟩, rfl, hrest⟩
    exact ⟨m, ⟨m, hm, rfl, hrest⟩, hjoins⟩
  · rintro ⟨_, ⟨m, hm, rfl, hrest⟩, hjoins⟩
    exact ⟨l, ⟨m, hm, hjoins⟩, rfl, hrest⟩

/-- The strings that are taken are joined. -/
theorem joined_of_strings (h : strings ls = some (.literal l, rest)) :
    joined ls = .string l :: joined rest ∧ NoString rest := by
  induction ls generalizing l with
  | nil => cases h
  | cons k ls ih =>
      cases k with
      | string q =>
          -- Either this is the last of the strings, or more of them follow.
          obtain hno | ⟨r, ls', rfl⟩ := noString_or_exists ls
          · rw [strings_of_noString hno] at h
            cases h
            exact ⟨joinFront_of_noString (noString_joined hno) _, hno⟩
          · obtain ⟨m, hm, hjoins⟩ := strings_cons_eq_some_iff.1 h
            obtain ⟨hjoined, hrest⟩ := ih hm
            refine ⟨?_, hrest⟩
            rw [joined, hjoined, joinFront, joinStrings_singleton_eq_some_iff.2 hjoins]
      | name | keyword | number | op => cases h

/-- Strings that are joined to one are taken. -/
theorem strings_of_joined {tail : List Lexeme} (h : joined ls = .string l :: tail)
    (htail : NoString tail) :
    ∃ rest, strings ls = some (.literal l, rest) ∧ joined rest = tail := by
  induction ls generalizing l with
  | nil => cases h
  | cons k ls ih =>
      cases k with
      | string q =>
          rw [joined] at h
          obtain hno | ⟨r, ls', rfl⟩ := noString_or_exists ls
          · rw [joinFront_of_noString (noString_joined hno)] at h
            cases h
            exact ⟨ls, strings_of_noString hno _, rfl⟩
          · -- the strings behind the first one are one string, and the two of them join
            obtain ⟨m, tail', hjoined⟩ := exists_joinFront r (joined ls')
            rw [joined, hjoined, joinFront] at h
            cases hqm : joinStrings q [m] with
            | some x =>
                rw [hqm] at h
                cases h
                obtain ⟨rest, hrest, hjoin⟩ := ih hjoined
                exact ⟨rest, strings_cons_eq_some_iff.2
                  ⟨m, hrest, joinStrings_singleton_eq_some_iff.1 hqm⟩, hjoin⟩
            | none =>
                rw [hqm] at h
                cases h
                exact absurd rfl (htail m)
      | name | keyword | number | op => cases h

/-- What is taken is a literal. -/
theorem exists_of_strings {e : Expr} (h : strings ls = some (e, rest)) : ∃ l, e = .literal l := by
  match ls with
  | .string q :: ls =>
      rw [strings_cons] at h
      obtain ⟨l, -, heq⟩ := Option.map_eq_some_iff.1 h
      cases heq
      exact ⟨l, rfl⟩
  | [] | .name _ :: _ | .keyword _ :: _ | .number _ :: _ | .op _ :: _ => cases h

end Parse

end Curly
