import Curly.Proofs.Expr.Parser

/-!
Adjacent strings. An expression that begins with a string and is a literal consists of strings
alone, and the literal is all of them joined.
-/

namespace Curly.Parse

variable {α β : Type} {ls rest : List Lexeme} {n : Nat}

theorem bind_eq_some {x : Parse α} {k : α → Parse β} {r : β × List Lexeme} :
    (x >>= k) ls = some r ↔ ∃ a ls', x ls = some (a, ls') ∧ k a ls' = some r := by
  constructor
  · intro h
    obtain ⟨⟨a, ls'⟩, hx, hk⟩ := Option.bind_eq_some_iff.1 h
    exact ⟨a, ls', hx, hk⟩
  · rintro ⟨a, ls', hx, hk⟩
    exact Option.bind_eq_some_iff.2 ⟨(a, ls'), hx, hk⟩

theorem accept_eq (k : Lexeme) (ls : List Lexeme) :
    accept k ls = if ls.head? = some k then some (true, ls.drop 1) else some (false, ls) := by
  have hsees : sees k ls = some (ls.head? == some k, ls) := rfl
  rw [accept]
  by_cases h : ls.head? = some k
  · rw [if_pos h, bind_eq_some]
    refine ⟨_, _, hsees, ?_⟩
    rw [if_pos (beq_iff_eq.2 h)]
    rfl
  · rw [if_neg h, bind_eq_some]
    refine ⟨_, _, hsees, ?_⟩
    rw [if_neg (by simpa using h)]
    rfl

/-! ## Literals that begin with a string -/

/-- Whether a parser, where a string is next, yields a literal only if this is a row of strings. -/
def TakesStrings (x : Parse Expr) : Prop := ∀ ⦃q l : Literal⦄ ⦃ls rest : List Lexeme⦄,
  x (.string q :: ls) = some (.literal l, rest) →
    strings (.string q :: ls) = some (.literal l, rest)

/-- Whether a parser that goes on from an expression yields a literal only if it takes nothing. -/
def Extends (e : Expr) (x : Parse Expr) : Prop := ∀ ⦃l : Literal⦄ ⦃ls rest : List Lexeme⦄,
  x ls = some (.literal l, rest) → e = .literal l ∧ rest = ls

/-- Whether a parser yields no literal. -/
def IsCompound (x : Parse Expr) : Prop := Yields x fun e => ∀ l, e ≠ .literal l

/-- Whether a parser of further parts yields none only if it takes nothing. -/
def IsFurther (x : Parse (List α)) : Prop := ∀ ⦃ls rest : List Lexeme⦄,
  x ls = some ([], rest) → rest = ls

theorem Extends.failure (e : Expr) : Extends e failure := by
  intro l ls rest h
  cases h

theorem Extends.pure (e : Expr) : Extends e (Pure.pure e) := by
  intro l ls rest h
  cases h
  exact ⟨rfl, rfl⟩

theorem Extends.isCompound {e : Expr} {x : Parse Expr} (hx : Extends e x)
    (he : ∀ l, e ≠ .literal l) : IsCompound x := by
  intro ls a rest h l ha
  subst ha
  exact he l (hx h).1

/-- What a lexeme leads to is compound. -/
theorem Extends.accept {k : Lexeme} {e : Expr} {y z : Parse Expr} (hy : IsCompound y)
    (hz : Extends e z) : Extends e (Parse.accept k >>= fun b => if b = true then y else z) := by
  intro l ls rest h
  obtain ⟨b, ls', hb, h⟩ := bind_eq_some.1 h
  rw [accept_eq] at hb
  split at hb
  · cases hb
    rw [if_pos rfl] at h
    exact absurd rfl (hy _ _ _ h l)
  · cases hb
    rw [if_neg Bool.false_ne_true] at h
    exact hz h

/-- Further parts make an expression compound. -/
theorem Extends.further {x : Parse (List α)} {e : Expr} {k : List α → Parse Expr}
    (hx : IsFurther x) (hnil : k [] = Pure.pure e) (hcons : ∀ a as, IsCompound (k (a :: as))) :
    Extends e (x >>= k) := by
  intro l ls rest h
  obtain ⟨as, ls', has, h⟩ := bind_eq_some.1 h
  cases as with
  | nil =>
      rw [hnil] at h
      cases h
      exact ⟨rfl, hx has⟩
  | cons a as => exact absurd rfl (hcons a as _ _ _ h l)

theorem TakesStrings.failure : TakesStrings failure := by
  intro q l ls rest h
  cases h

theorem TakesStrings.bind {x : Parse Expr} {k : Expr → Parse Expr} (hx : TakesStrings x)
    (hk : ∀ e, Extends e (k e)) : TakesStrings (x >>= k) := by
  intro q l ls rest h
  obtain ⟨e, ls', he, h⟩ := bind_eq_some.1 h
  obtain ⟨rfl, rfl⟩ := hk e h
  exact hx he

theorem TakesStrings.accept {k : Lexeme} (hk : ∀ q, k ≠ .string q) {y z : Parse Expr}
    (hz : TakesStrings z) :
    TakesStrings (Parse.accept k >>= fun b => if b = true then y else z) := by
  intro q l ls rest h
  obtain ⟨b, ls', hb, h⟩ := bind_eq_some.1 h
  have hne : (Lexeme.string q :: ls).head? ≠ some k := fun heq => hk q (Option.some.inj heq).symm
  rw [accept_eq, if_neg hne] at hb
  cases hb
  rw [if_neg Bool.false_ne_true] at h
  exact hz h

theorem TakesStrings.acceptOp {w : String} {y z : Parse Expr} (hz : TakesStrings z) :
    TakesStrings (Parse.acceptOp w >>= fun b => if b = true then y else z) :=
  .accept (k := .op w) (by simp) hz

theorem TakesStrings.acceptWord {w : String} {y z : Parse Expr} (hz : TakesStrings z) :
    TakesStrings (Parse.acceptWord w >>= fun b => if b = true then y else z) :=
  .accept (k := .keyword w) (by simp) hz

theorem IsFurther.failure : IsFurther (α := α) failure := by
  intro ls rest h
  cases h

/-- A part, and perhaps more. -/
theorem IsFurther.accept {k : Lexeme} {y : Parse (List α)} (hy : Yields y (· ≠ [])) :
    IsFurther (Parse.accept k >>= fun b => if b = true then y else Pure.pure []) := by
  intro ls rest h
  obtain ⟨b, ls', hb, h⟩ := bind_eq_some.1 h
  rw [accept_eq] at hb
  split at hb
  · cases hb
    rw [if_pos rfl] at h
    exact absurd rfl (hy _ _ _ h)
  · cases hb
    cases h
    rfl

open Yields in
theorem isFurther_more (word : String) : IsFurther (more n word) := by
  cases n with
  | zero => exact .failure
  | succ n =>
      rw [more]
      refine .accept (ite (fun _ => ?_) fun _ => ?_)
      · exact bind fun _ => bind fun _ => pure (List.cons_ne_nil _ _)
      · exact bind fun _ => bind fun _ => pure (List.cons_ne_nil _ _)

/-- Where no comparison is next, nothing is taken. -/
theorem compareOp_eq_none (h : compareOp ls = some (none, rest)) : rest = ls := by
  rw [compareOp] at h
  obtain ⟨_, _, hget, h⟩ := bind_eq_some.1 h
  cases hget
  split at h
  all_goals first
    | cases h; rfl
    | cases h

theorem isFurther_links : IsFurther (links n) := by
  cases n with
  | zero => exact .failure
  | succ n =>
      intro ls rest h
      rw [links] at h
      obtain ⟨op, ls', hop, h⟩ := bind_eq_some.1 h
      cases op with
      -- A link that is taken is in the result, which has none.
      | some op =>
          obtain ⟨e, _, -, h⟩ := bind_eq_some.1 h
          obtain ⟨es, _, -, h⟩ := bind_eq_some.1 h
          cases h
      | none =>
          cases h
          exact compareOp_eq_none hop

theorem extends_binaryRest (level : Nat) (left : Expr) :
    Extends left (binaryRest n level left) := by
  induction n generalizing left with
  | zero => exact .failure _
  | succ n ih =>
      intro l ls rest h
      rw [binaryRest] at h
      obtain ⟨next, ls', hpeek, hnext⟩ := bind_eq_some.1 h
      obtain rfl : ls' = ls := (congrArg Prod.snd (Option.some.inj hpeek)).symm
      clear h hpeek
      split at hnext
      next w =>
          cases hop : (binaryLevels[level]?.getD []).lookup w with
          | some op =>
              -- with another operand the expression is no literal
              rw [hop] at hnext
              obtain ⟨_, _, -, hright⟩ := bind_eq_some.1 hnext
              obtain ⟨right, _, -, hmore⟩ := bind_eq_some.1 hright
              cases (ih _ hmore).1
          | none =>
              rw [hop] at hnext
              exact Extends.pure left hnext
      next => exact Extends.pure left hnext

open Yields in
theorem extends_trailers (e : Expr) : Extends e (trailers n e) := by
  induction n generalizing e with
  | zero => exact .failure _
  | succ n ih =>
      have hcompound (e : Expr) (he : ∀ l, e ≠ .literal l) : IsCompound (trailers n e) :=
        (ih e).isCompound he
      rw [trailers]
      refine .accept (bind fun id => hcompound _ (by simp)) ?_
      refine .accept (bind fun args => hcompound _ (by simp)) ?_
      exact .accept (bind fun index => hcompound _ (by simp)) (.pure e)

/-- The parsers of one depth of descent take strings. -/
structure TakesStringsAt (n : Nat) : Prop where
  expression : TakesStrings (expression n)
  disjunction : TakesStrings (disjunction n)
  conjunction : TakesStrings (conjunction n)
  inversion : TakesStrings (inversion n)
  binary : ∀ level, TakesStrings (binary n level)
  factor : TakesStrings (factor n)
  primary : TakesStrings (primary n)
  atom : TakesStrings (atom n)

open Yields in
theorem takesStrings_expression (ih : TakesStringsAt n) : TakesStrings (expression (n + 1)) := by
  rw [expression]
  refine .acceptWord (ih.disjunction.bind fun e => .accept ?_ (.pure e))
  exact bind fun _ => bind fun _ => bind fun _ => pure (by simp)

open Yields in
theorem takesStrings_inversion (ih : TakesStringsAt n) : TakesStrings (inversion (n + 1)) := by
  rw [inversion]
  refine .acceptWord ((ih.binary 0).bind fun e => ?_)
  exact .further isFurther_links rfl fun _ _ => pure (by simp)

theorem takesStrings_binary (ih : TakesStringsAt n) (level : Nat) :
    TakesStrings (binary (n + 1) level) := by
  rw [binary]
  split
  · exact ih.factor
  · exact (ih.binary (level + 1)).bind (extends_binaryRest level)

open Yields in
theorem takesStrings_factor (ih : TakesStringsAt n) : TakesStrings (factor (n + 1)) := by
  rw [factor]
  refine .acceptOp (.acceptOp (.acceptOp (.acceptWord ?_)))
  exact ih.primary.bind fun e => .accept (bind fun _ => pure (by simp)) (.pure e)

theorem takesStrings_atom : TakesStrings (atom (n + 1)) := by
  intro q l ls rest h
  rw [atom] at h
  exact h

open Yields in
/-- A string is taken with those that follow it, at every depth of descent. -/
theorem takesStringsAt (n : Nat) : TakesStringsAt n := by
  induction n with
  | zero =>
      exact ⟨.failure, .failure, .failure, .failure, fun _ => .failure, .failure, .failure,
        .failure⟩
  | succ n ih =>
      exact {
        expression := takesStrings_expression ih
        disjunction := by
          rw [disjunction]
          exact ih.conjunction.bind fun e =>
            .further (isFurther_more "or") rfl fun _ _ => pure (by simp)
        conjunction := by
          rw [conjunction]
          exact ih.inversion.bind fun e =>
            .further (isFurther_more "and") rfl fun _ _ => pure (by simp)
        inversion := takesStrings_inversion ih
        binary := takesStrings_binary ih
        factor := takesStrings_factor ih
        primary := by
          rw [primary]
          exact ih.atom.bind extends_trailers
        atom := takesStrings_atom }

/-! ## Texts that write a literal -/

theorem strings_cons (q : Literal) (ls : List Lexeme) :
    strings (.string q :: ls) = (joinStrings q (leadingStrings ls)).map fun l =>
      (.literal l, ls.drop (leadingStrings ls).length) := by
  have hget (k : List Lexeme → Parse Expr) (ls : List Lexeme) : (get >>= k) ls = k ls ls := rfl
  have hmodify (f : List Lexeme → List Lexeme) (k : Unit → Parse Expr) (ls : List Lexeme) :
      (modify f >>= k) ls = k () (f ls) := rfl
  rw [strings, hget, leadingStrings]
  dsimp only
  rw [hmodify]
  cases joinStrings q (leadingStrings ls) with
  | none => rfl
  | some l => rfl

theorem leadingStrings_append_drop (ls : List Lexeme) :
    (leadingStrings ls).map .string ++ ls.drop (leadingStrings ls).length = ls := by
  induction ls with
  | nil => rfl
  | cons k ls ih =>
      cases k with
      | string q => exact congrArg (_ :: ·) ih
      | name | keyword | number | op => rfl

/-- Lexemes that begin with a string and write a literal are a row of strings that make it. -/
theorem exists_row_of_whole {q l : Literal}
    (h : whole n (.string q :: ls) = some (.literal l, rest)) :
    ∃ qs, ls = qs.map .string ∧ joinStrings q qs = some l := by
  rw [whole] at h
  obtain ⟨e, ls₁, he, hrest⟩ := bind_eq_some.1 h
  obtain ⟨b, ls₂, hcomma, hend⟩ := bind_eq_some.1 hrest
  replace hcomma : accept (.op ",") ls₁ = some (b, ls₂) := hcomma
  rw [accept_eq] at hcomma
  split at hcomma
  · -- a tuple is no literal
    cases hcomma
    obtain ⟨es, _, -, heq⟩ := bind_eq_some.1 hend
    cases heq
  · cases hcomma
    cases ls₁ with
    | cons => cases hend
    | nil =>
        cases hend
        have hstrings := (takesStringsAt n).expression he
        rw [strings_cons] at hstrings
        obtain ⟨l', hjoin, heq⟩ := Option.map_eq_some_iff.1 hstrings
        rw [Prod.mk.injEq, Expr.literal.injEq] at heq
        obtain ⟨rfl, hdrop⟩ := heq
        have hsplit := leadingStrings_append_drop ls
        rw [hdrop, List.append_nil] at hsplit
        exact ⟨leadingStrings ls, hsplit.symm, hjoin⟩

end Curly.Parse
