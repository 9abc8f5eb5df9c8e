import Curly.Proofs.Expr.Joined

/-!
The parser does not see how texts are cut into strings: what it reads from some lexemes it reads
from all that differ from them in nothing else, and at every greater depth of descent. Each function
of the parser is followed so by itself; the induction is on the lesser depth.
-/

namespace Curly.Parse

open Lexeme

variable {α β : Type} {ls ls' : List Lexeme}

/-- Whether a parser reads from some lexemes what another one reads from others, and leaves lexemes
that are alike. -/
def FollowsOn (x y : Parse α) (ls ls' : List Lexeme) : Prop :=
  ∀ ⦃a rest⦄, x ls = some (a, rest) → ∃ rest', y ls' = some (a, rest') ∧ Alike rest rest'

/-- Whether a parser reads from lexemes that are alike what another one reads. -/
def Follows (x y : Parse α) : Prop := ∀ ⦃ls ls'⦄, Alike ls ls' → FollowsOn x y ls ls'

namespace FollowsOn

variable {x y : Parse α} {k k' : α → Parse β}

theorem bind (hx : FollowsOn x y ls ls') (hk : ∀ a, Follows (k a) (k' a)) :
    FollowsOn (x >>= k) (y >>= k') ls ls' := by
  intro b rest h
  obtain ⟨a, ls₁, ha, h⟩ := bind_eq_some.1 h
  obtain ⟨ls₂, ha', hrest⟩ := hx ha
  obtain ⟨rest', hb, halike⟩ := hk a hrest h
  exact ⟨rest', bind_eq_some.2 ⟨a, ls₂, ha', hb⟩, halike⟩

theorem failure_bind : FollowsOn ((failure : Parse α) >>= k) (y >>= k') ls ls' := by
  intro b rest heq
  cases heq

theorem ite {c : Prop} [Decidable c] {x' y' : Parse α} (hx : c → FollowsOn x x' ls ls')
    (hy : ¬c → FollowsOn y y' ls ls') :
    FollowsOn (if c then x else y) (if c then x' else y') ls ls' := by
  by_cases h : c
  · rw [if_pos h, if_pos h]
    exact hx h
  · rw [if_neg h, if_neg h]
    exact hy h

/-- With all lexemes at hand. -/
theorem get {f g : List Lexeme → Parse β} (h : FollowsOn (f ls) (g ls') ls ls') :
    FollowsOn (MonadState.get >>= f) (MonadState.get >>= g) ls ls' := h

/-- Going on from other lexemes. -/
theorem set {rest rest' : List Lexeme} {x y : Parse β} (hrest : Alike rest rest')
    (h : Follows x y) :
    FollowsOn (MonadState.set rest >>= fun _ => x) (MonadState.set rest' >>= fun _ => y) ls ls' :=
  h hrest

end FollowsOn

namespace Follows

variable {x x' y y' : Parse α} {k k' : α → Parse β} {a : α} {l : Lexeme}

theorem pure (a : α) : Follows (Pure.pure a) (Pure.pure a) := by
  intro ls ls' h b rest heq
  cases heq
  exact ⟨ls', rfl, h⟩

theorem failure : Follows Alternative.failure y := by
  intro ls ls' h b rest heq
  cases heq

theorem failure_bind : Follows ((Alternative.failure : Parse α) >>= k) (y >>= k') :=
  fun _ _ _ => .failure_bind

theorem bind (hx : Follows x y) (hk : ∀ a, Follows (k a) (k' a)) : Follows (x >>= k) (y >>= k') :=
  fun _ _ h => (hx h).bind hk

theorem ite {c : Prop} [Decidable c] (hx : c → Follows x x') (hy : ¬c → Follows y y') :
    Follows (if c then x else y) (if c then x' else y') :=
  fun _ _ h => .ite (fun hc => hx hc h) fun hc => hy hc h

/-- The next lexeme is looked at: the same one, or a string. -/
theorem peek {f g : Option Lexeme → Parse β}
    (h : ∀ ⦃ls ls'⦄, Alike ls ls' → NoString ls → FollowsOn (f ls.head?) (g ls.head?) ls ls')
    (hstring : ∀ q q', Follows (f (some (.string q))) (g (some (.string q')))) :
    Follows (Parse.peek >>= f) (Parse.peek >>= g) := by
  intro ls ls' halike
  have hpeek : FollowsOn (f ls.head?) (g ls'.head?) ls ls' := by
    obtain ⟨hhead, hno⟩ | ⟨q, q', hq, hq'⟩ := halike.head?_cases
    · rw [← hhead]
      exact h halike hno
    · rw [hq, hq']
      exact hstring q q' halike
  exact hpeek

/-- Whether any lexeme is left. -/
theorem atEnd (hx : Follows x x') (hy : Follows y y') :
    Follows (MonadState.get >>= fun ls => if List.isEmpty ls = true then x else y)
      (MonadState.get >>= fun ls => if List.isEmpty ls = true then x' else y') := by
  intro ls ls' halike
  refine .get ?_
  rw [halike.isEmpty]
  exact .ite (fun _ => hx halike) fun _ => hy halike

theorem sees (hl : ∀ q, l ≠ .string q) : Follows (Parse.sees l) (Parse.sees l) := by
  intro ls ls' halike b rest heq
  cases heq
  refine ⟨ls', ?_, halike⟩
  have hhead : (ls'.head? == some l) = (ls.head? == some l) := by
    rw [Bool.eq_iff_iff, beq_iff_eq, beq_iff_eq]
    exact (halike.head?_iff hl).symm
  exact congrArg (fun b => some (b, ls')) hhead

theorem accept (hl : ∀ q, l ≠ .string q) : Follows (Parse.accept l) (Parse.accept l) := by
  intro ls ls' halike b rest heq
  rw [accept_eq] at heq ⊢
  split at heq
  · rename_i hhead
    obtain ⟨t, rfl⟩ := List.head?_eq_some_iff.1 hhead
    obtain ⟨t', rfl, ht⟩ := halike.exists_cons hl
    cases heq
    exact ⟨t', if_pos rfl, ht⟩
  · rename_i hhead
    cases heq
    exact ⟨ls', if_neg (fun h => hhead ((halike.head?_iff hl).2 h)), halike⟩

theorem expect (hl : ∀ q, l ≠ .string q) : Follows (Parse.expect l) (Parse.expect l) :=
  bind (accept hl) fun _ => ite (fun _ => failure) fun _ => pure ()

theorem acceptOp (w : String) : Follows (Parse.acceptOp w) (Parse.acceptOp w) :=
  accept (l := .op w) nofun

theorem acceptWord (w : String) : Follows (Parse.acceptWord w) (Parse.acceptWord w) :=
  accept (l := .keyword w) nofun

theorem expectOp (w : String) : Follows (Parse.expectOp w) (Parse.expectOp w) :=
  expect (l := .op w) nofun

theorem expectWord (w : String) : Follows (Parse.expectWord w) (Parse.expectWord w) :=
  expect (l := .keyword w) nofun

theorem seesOp (w : String) : Follows (Parse.seesOp w) (Parse.seesOp w) :=
  sees (l := .op w) nofun

theorem seesWord (w : String) : Follows (Parse.seesWord w) (Parse.seesWord w) :=
  sees (l := .keyword w) nofun

end Follows

/-! ## What the functions of the parser start from -/

theorem follows_strings : Follows strings strings := by
  intro ls ls' halike e rest h
  obtain ⟨l, rfl⟩ := exists_of_strings h
  obtain ⟨hjoined, hno⟩ := joined_of_strings h
  rw [halike] at hjoined
  obtain ⟨rest', h', hrest⟩ := strings_of_joined hjoined (noString_joined hno)
  exact ⟨rest', h', hrest.symm⟩

/-- Passing over a lexeme that is no string. -/
theorem FollowsOn.skip {x y : Parse β} (halike : Alike ls ls') (hno : NoString ls)
    (h : Follows x y) :
    FollowsOn (Parse.skip >>= fun _ => x) (Parse.skip >>= fun _ => y) ls ls' := by
  have hdrop : Alike (ls.drop 1) (ls'.drop 1) := by
    match ls with
    | [] =>
        obtain rfl : ls' = [] := List.isEmpty_iff.1 halike.isEmpty.symm
        exact halike
    | .string q :: t => exact absurd rfl (hno q)
    | .name _ :: t | .keyword _ :: t | .number _ :: t | .op _ :: t =>
        obtain ⟨t', rfl, ht⟩ := halike.exists_cons (by nofun)
        exact ht
  exact h hdrop

theorem follows_name : Follows name name := by
  refine .peek (fun ls ls' halike hno => ?_) fun q q' => .failure
  split
  · exact .skip halike hno (.pure _)
  · exact Follows.failure halike

theorem follows_seesClause : Follows seesClause seesClause :=
  .bind (.seesWord "for") fun _ => .bind (.seesWord "async") fun _ => .pure _

theorem follows_seesAssign : Follows seesAssign seesAssign := by
  intro ls ls' halike
  refine .get ?_
  split
  · obtain ⟨t, rfl, ht⟩ := halike.exists_cons (by nofun)
    obtain ⟨t', rfl, -⟩ := ht.exists_cons (by nofun)
    exact Follows.pure _ halike
  · rename_i hother
    split
    · obtain ⟨t, rfl, ht⟩ := halike.symm.exists_cons (by nofun)
      obtain ⟨t', rfl, -⟩ := ht.exists_cons (by nofun)
      exact absurd rfl (hother _ _)
    · exact Follows.pure _ halike

theorem follows_compareOp : Follows compareOp compareOp := by
  intro ls ls' halike
  refine .get ?_
  split
  all_goals first
    | -- one lexeme tells the operator
      obtain ⟨t, rfl, ht⟩ := halike.exists_cons (by nofun)
      exact Follows.pure _ ht
    | -- two lexemes do
      obtain ⟨t, rfl, ht⟩ := halike.exists_cons (by nofun)
      obtain ⟨t', rfl, hrest⟩ := ht.exists_cons (by nofun)
      exact Follows.pure _ hrest
    | skip
  · -- `is` stands alone in both or in none
    rename_i hnot
    obtain ⟨t, rfl, ht⟩ := halike.exists_cons (by nofun)
    split
    case h_9 heq =>
      cases heq
      obtain ⟨u, rfl, -⟩ := ht.symm.exists_cons (by nofun)
      exact absurd rfl (hnot _)
    case h_10 => exact Follows.pure _ ht
    case h_11 hother => exact absurd rfl (hother _)
    all_goals
      rename_i heq
      simp at heq
  · split
    all_goals first
      | exact Follows.pure _ halike
      | obtain ⟨t, rfl, -⟩ := halike.symm.exists_cons (by nofun)
        simp at *
        done
      | obtain ⟨t, rfl, ht⟩ := halike.symm.exists_cons (by nofun)
        obtain ⟨u, rfl, -⟩ := ht.exists_cons (by nofun)
        simp at *

end Curly.Parse
