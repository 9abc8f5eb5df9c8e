import Curly.Proofs.Expr.Follows

/-!
The functions of the parser, each followed by itself at another depth of descent: what they read
from some lexemes they read at every greater depth from all lexemes that are alike. So the parser
does not see how the texts of an expression are cut into strings.
-/

namespace Curly.Parse

open Lexeme

/-- The functions of one depth of descent read what those of another one read. -/
structure FollowsAt (n m : Nat) : Prop where
  expression : Follows (expression n) (expression m)
  namedExpression : Follows (namedExpression n) (namedExpression m)
  element : Follows (element n) (element m)
  elements : ∀ close, Follows (elements n close) (elements m close)
  disjunction : Follows (disjunction n) (disjunction m)
  conjunction : Follows (conjunction n) (conjunction m)
  more : ∀ word, Follows (more n word) (more m word)
  inversion : Follows (inversion n) (inversion m)
  links : Follows (links n) (links m)
  binary : ∀ level, Follows (binary n level) (binary m level)
  binaryRest : ∀ level left, Follows (binaryRest n level left) (binaryRest m level left)
  factor : Follows (factor n) (factor m)
  primary : Follows (primary n) (primary m)
  trailers : ∀ e, Follows (trailers n e) (trailers m e)
  atom : Follows (atom n) (atom m)
  parenthesized : Follows (parenthesized n) (parenthesized m)
  bracketed : Follows (bracketed n) (bracketed m)
  braced : Follows (braced n) (braced m)
  dictItems : Follows (dictItems n) (dictItems m)
  clauses : Follows (clauses n) (clauses m)
  tests : Follows (tests n) (tests m)
  targets : Follows (targets n) (targets m)
  targetRest : Follows (targetRest n) (targetRest m)
  target : Follows (target n) (target m)
  subscripts : Follows (subscripts n) (subscripts m)
  subscriptRest : Follows (subscriptRest n) (subscriptRest m)
  subscriptItem : Follows (subscriptItem n) (subscriptItem m)
  sliceBound : Follows (sliceBound n) (sliceBound m)
  arguments : Follows (arguments n) (arguments m)
  positionals : Follows (positionals n) (positionals m)
  keywordArguments : ∀ spread, Follows (keywordArguments n spread) (keywordArguments m spread)
  keywordRest : ∀ spread, Follows (keywordRest n spread) (keywordRest m spread)
  parameters : ∀ s, Follows (parameters n s) (parameters m s)
  paramRest : ∀ s, Follows (paramRest n s) (paramRest m s)

section Step

variable {n m : Nat} (ih : FollowsAt n m)

include ih

theorem follows_expression : Follows (expression (n + 1)) (expression (m + 1)) := by
  rw [expression, expression]
  refine .bind (.acceptWord "lambda") fun _ => .ite (fun _ => ?_) fun _ => ?_
  · exact .bind (ih.parameters _) fun _ => .bind (.expectOp ":") fun _ =>
      .bind ih.expression fun _ => .pure _
  refine .bind ih.disjunction fun _ => .bind (.acceptWord "if") fun _ => .ite (fun _ => ?_) ?_
  · exact .bind ih.disjunction fun _ => .bind (.expectWord "else") fun _ =>
      .bind ih.expression fun _ => .pure _
  · exact fun _ => .pure _

theorem follows_namedExpression :
    Follows (namedExpression (n + 1)) (namedExpression (m + 1)) := by
  rw [namedExpression, namedExpression]
  intro ls ls' halike
  -- An assignment shows by a name and the sign behind it, which lists that are alike have in
  -- common.
  refine .get ?_
  split
  · obtain ⟨t, rfl, ht⟩ := halike.exists_cons (by nofun)
    obtain ⟨t', rfl, hrest⟩ := ht.exists_cons (by nofun)
    exact .set hrest (.bind ih.expression fun _ => .pure _)
  · rename_i hnot
    split
    · obtain ⟨t, rfl, ht⟩ := halike.symm.exists_cons (by nofun)
      obtain ⟨t', rfl, -⟩ := ht.exists_cons (by nofun)
      exact absurd rfl (hnot _ _)
    · refine Follows.bind ih.expression (fun _ => .bind (.seesOp ":=") fun _ => ?_) halike
      exact .ite (fun _ => .failure) fun _ => .pure _

theorem follows_element : Follows (element (n + 1)) (element (m + 1)) := by
  rw [element, element]
  refine .bind (.acceptOp "*") fun _ => .ite (fun _ => ?_) fun _ => ih.namedExpression
  exact .bind (ih.binary 0) fun _ => .pure _

theorem follows_elements (close : String) :
    Follows (elements (n + 1) close) (elements (m + 1) close) := by
  rw [elements, elements]
  refine .bind (.acceptOp close) fun _ => .ite (fun _ => .pure _) fun _ => ?_
  refine .bind ih.element fun _ => .bind (.acceptOp ",") fun _ => .ite (fun _ => ?_) fun _ => ?_
  · exact .bind (ih.elements close) fun _ => .pure _
  · exact .bind (.expectOp close) fun _ => .pure _

theorem follows_disjunction : Follows (disjunction (n + 1)) (disjunction (m + 1)) := by
  rw [disjunction, disjunction]
  refine .bind ih.conjunction fun _ => .bind (ih.more "or") fun es => ?_
  cases es with
  | nil => exact .pure _
  | cons e es => exact .pure _

theorem follows_conjunction : Follows (conjunction (n + 1)) (conjunction (m + 1)) := by
  rw [conjunction, conjunction]
  refine .bind ih.inversion fun _ => .bind (ih.more "and") fun es => ?_
  cases es with
  | nil => exact .pure _
  | cons e es => exact .pure _

theorem follows_more (word : String) : Follows (more (n + 1) word) (more (m + 1) word) := by
  rw [more, more]
  refine .bind (.acceptWord word) fun _ => .ite (fun _ => .ite (fun _ => ?_) fun _ => ?_) ?_
  · exact .bind ih.conjunction fun _ => .bind (ih.more word) fun _ => .pure _
  · exact .bind ih.inversion fun _ => .bind (ih.more word) fun _ => .pure _
  · exact fun _ => .pure _

theorem follows_inversion : Follows (inversion (n + 1)) (inversion (m + 1)) := by
  rw [inversion, inversion]
  refine .bind (.acceptWord "not") fun _ => .ite (fun _ => ?_) fun _ => ?_
  · exact .bind ih.inversion fun _ => .pure _
  refine .bind (ih.binary 0) fun _ => .bind ih.links fun ls => ?_
  cases ls with
  | nil => exact .pure _
  | cons l ls => exact .pure _

theorem follows_binary (level : Nat) :
    Follows (binary (n + 1) level) (binary (m + 1) level) := by
  rw [binary, binary]
  exact .ite (fun _ => ih.factor) fun _ =>
    .bind (ih.binary (level + 1)) fun left => ih.binaryRest level left

theorem follows_binaryRest (level : Nat) (left : Expr) :
    Follows (binaryRest (n + 1) level left) (binaryRest (m + 1) level left) := by
  rw [binaryRest, binaryRest]
  refine .peek (fun ls ls' halike hno => ?_) fun _ _ => .pure _
  split
  · split
    · exact .skip halike hno (.bind (ih.binary (level + 1)) fun _ => ih.binaryRest level _)
    · exact Follows.pure _ halike
  · exact Follows.pure _ halike

theorem follows_factor : Follows (factor (n + 1)) (factor (m + 1)) := by
  rw [factor, factor]
  refine .bind (.acceptOp "+") fun _ => .ite (fun _ => ?_) fun _ => ?_
  · exact .bind ih.factor fun _ => .pure _
  refine .bind (.acceptOp "-") fun _ => .ite (fun _ => ?_) fun _ => ?_
  · exact .bind ih.factor fun _ => .pure _
  refine .bind (.acceptOp "~") fun _ => .ite (fun _ => ?_) fun _ => ?_
  · exact .bind ih.factor fun _ => .pure _
  -- a power may stand behind both kinds of primary
  have hpower (base : Expr) :
      Follows (do
          if ← acceptOp "**" then return .binary .pow base (← factor n)
          return base)
        (do
          if ← acceptOp "**" then return .binary .pow base (← factor m)
          return base) :=
    .bind (.acceptOp "**") fun _ => .ite (fun _ => .bind ih.factor fun _ => .pure _) fun _ =>
      .pure _
  refine .bind (.acceptWord "await") fun _ => .ite (fun _ => ?_) fun _ => ?_
  · exact .bind ih.primary fun _ => .bind (.pure _) hpower
  · exact .bind ih.primary hpower

theorem follows_primary : Follows (primary (n + 1)) (primary (m + 1)) := by
  rw [primary, primary]
  exact .bind ih.atom fun e => ih.trailers e

theorem follows_trailers (e : Expr) : Follows (trailers (n + 1) e) (trailers (m + 1) e) := by
  rw [trailers, trailers]
  refine .bind (.acceptOp ".") fun _ => .ite (fun _ => ?_) fun _ => ?_
  · exact .bind follows_name fun _ => ih.trailers _
  refine .bind (.acceptOp "(") fun _ => .ite (fun _ => ?_) fun _ => ?_
  · exact .bind ih.arguments fun _ => ih.trailers _
  refine .bind (.acceptOp "[") fun _ => .ite (fun _ => ?_) fun _ => .pure _
  exact .bind ih.subscripts fun _ => ih.trailers _

theorem follows_atom : Follows (atom (n + 1)) (atom (m + 1)) := by
  rw [atom, atom]
  refine .peek (fun ls ls' halike hno => ?_) fun _ _ => follows_strings
  split
  · exact .skip halike hno (.pure _)
  · exact .skip halike hno (.pure _)
  · exact follows_strings halike
  · exact .skip halike hno (.pure _)
  · exact .skip halike hno (.pure _)
  · exact .skip halike hno (.pure _)
  · exact .skip halike hno (.pure _)
  · exact .skip halike hno ih.parenthesized
  · exact .skip halike hno ih.bracketed
  · exact .skip halike hno ih.braced
  · exact Follows.failure halike

theorem follows_parenthesized :
    Follows (parenthesized (n + 1)) (parenthesized (m + 1)) := by
  rw [parenthesized, parenthesized]
  refine .bind (.acceptOp ")") fun _ => .ite (fun _ => .pure _) fun _ => ?_
  refine .bind ih.element fun _ => .bind (.acceptOp ",") fun _ => .ite (fun _ => ?_) fun _ => ?_
  · exact .bind (ih.elements ")") fun _ => .pure _
  refine .ite (fun _ => .failure) fun _ => ?_
  refine .bind follows_seesClause fun _ => .ite (fun _ => ?_) fun _ => ?_
  · exact .bind ih.clauses fun _ => .bind (.expectOp ")") fun _ => .pure _
  · exact .bind (.expectOp ")") fun _ => .pure _

theorem follows_bracketed : Follows (bracketed (n + 1)) (bracketed (m + 1)) := by
  rw [bracketed, bracketed]
  refine .bind (.acceptOp "]") fun _ => .ite (fun _ => .pure _) fun _ => ?_
  refine .bind ih.element fun _ => .bind (.acceptOp ",") fun _ => .ite (fun _ => ?_) fun _ => ?_
  · exact .bind (ih.elements "]") fun _ => .pure _
  refine .bind follows_seesClause fun _ => .ite (fun _ => ?_) fun _ => ?_
  · exact .bind ih.clauses fun _ => .bind (.expectOp "]") fun _ => .pure _
  · exact .bind (.expectOp "]") fun _ => .pure _

theorem follows_braced : Follows (braced (n + 1)) (braced (m + 1)) := by
  rw [braced, braced]
  refine .bind (.acceptOp "\x7d") fun _ => .ite (fun _ => .pure _) fun _ => ?_
  refine .bind (.seesOp "**") fun _ => .ite (fun _ => ?_) fun _ => ?_
  · exact .bind ih.dictItems fun _ => .pure _
  refine .bind follows_seesAssign fun _ => .bind ih.element fun _ => ?_
  refine .bind (.acceptOp ":") fun _ => .ite (fun _ => ?_) fun _ => ?_
  · refine .bind ih.expression fun _ => .bind follows_seesClause fun _ => .ite (fun _ => ?_) ?_
    · exact .bind ih.clauses fun _ => .bind (.expectOp "\x7d") fun _ => .pure _
    refine fun _ => .bind (.acceptOp ",") fun _ => .ite (fun _ => ?_) fun _ => ?_
    · exact .bind ih.dictItems fun _ => .pure _
    · exact .bind (.expectOp "\x7d") fun _ => .pure _
  refine .bind (.acceptOp ",") fun _ => .ite (fun _ => ?_) fun _ => ?_
  · exact .bind (ih.elements "\x7d") fun _ => .pure _
  refine .bind follows_seesClause fun _ => .ite (fun _ => ?_) fun _ => ?_
  · exact .bind ih.clauses fun _ => .bind (.expectOp "\x7d") fun _ => .pure _
  · exact .bind (.expectOp "\x7d") fun _ => .pure _

theorem follows_dictItems : Follows (dictItems (n + 1)) (dictItems (m + 1)) := by
  rw [dictItems, dictItems]
  refine .bind (.acceptOp "\x7d") fun _ => .ite (fun _ => .pure _) fun _ => ?_
  -- What follows an item is the same for both kinds of items.
  have hmore (item : DictItem) :
      Follows (do
          if ← acceptOp "," then return item :: (← dictItems n)
          expectOp "\x7d"
          return [item])
        (do
          if ← acceptOp "," then return item :: (← dictItems m)
          expectOp "\x7d"
          return [item]) := by
    refine .bind (.acceptOp ",") fun _ => .ite (fun _ => ?_) fun _ => ?_
    · exact .bind ih.dictItems fun _ => .pure _
    · exact .bind (.expectOp "\x7d") fun _ => .pure _
  refine .bind (.acceptOp "**") fun _ => .ite (fun _ => ?_) fun _ => ?_
  · exact .bind (ih.binary 0) fun _ => .bind (.pure _) hmore
  · exact .bind ih.expression fun _ => .bind (.expectOp ":") fun _ =>
      .bind ih.expression fun _ => .bind (.pure _) hmore

theorem follows_clauses : Follows (clauses (n + 1)) (clauses (m + 1)) := by
  rw [clauses, clauses]
  refine .bind (.acceptWord "async") fun _ => .bind (.expectWord "for") fun _ => ?_
  refine .bind ih.targets fun _ => .bind (.expectWord "in") fun _ => ?_
  refine .bind ih.disjunction fun _ => .bind ih.tests fun _ => ?_
  refine .bind follows_seesClause fun _ => .ite (fun _ => ?_) fun _ => .pure _
  exact .bind ih.clauses fun _ => .pure _

theorem follows_tests : Follows (tests (n + 1)) (tests (m + 1)) := by
  rw [tests, tests]
  refine .bind (.acceptWord "if") fun _ => .ite (fun _ => ?_) fun _ => .pure _
  exact .bind ih.disjunction fun _ => .bind ih.tests fun _ => .pure _

theorem follows_targets : Follows (targets (n + 1)) (targets (m + 1)) := by
  rw [targets, targets]
  refine .bind ih.target fun _ => .bind (.acceptOp ",") fun _ => .ite (fun _ => ?_) fun _ => .pure _
  exact .bind ih.targetRest fun _ => .pure _

theorem follows_targetRest : Follows (targetRest (n + 1)) (targetRest (m + 1)) := by
  rw [targetRest, targetRest]
  refine .bind (.seesWord "in") fun _ => .ite (fun _ => .pure _) fun _ => ?_
  refine .bind ih.target fun _ => .bind (.acceptOp ",") fun _ => .ite (fun _ => ?_) fun _ => .pure _
  exact .bind ih.targetRest fun _ => .pure _

theorem follows_target : Follows (target (n + 1)) (target (m + 1)) := by
  rw [target, target]
  refine .bind (.acceptOp "*") fun _ => .bind ih.primary fun _ => ?_
  exact .ite (fun _ => .pure _) fun _ => .failure

theorem follows_subscripts : Follows (subscripts (n + 1)) (subscripts (m + 1)) := by
  rw [subscripts, subscripts]
  refine .bind ih.subscriptItem fun _ => .bind (.acceptOp ",") fun _ => .ite (fun _ => ?_) ?_
  · exact .bind ih.subscriptRest fun _ => .pure _
  · exact fun _ => .bind (.expectOp "]") fun _ => .pure _

theorem follows_subscriptRest :
    Follows (subscriptRest (n + 1)) (subscriptRest (m + 1)) := by
  rw [subscriptRest, subscriptRest]
  refine .bind (.acceptOp "]") fun _ => .ite (fun _ => .pure _) fun _ => ?_
  refine .bind ih.subscriptItem fun _ => .bind (.acceptOp ",") fun _ => .ite (fun _ => ?_) ?_
  · exact .bind ih.subscriptRest fun _ => .pure _
  · exact fun _ => .bind (.expectOp "]") fun _ => .pure _

theorem follows_subscriptItem :
    Follows (subscriptItem (n + 1)) (subscriptItem (m + 1)) := by
  rw [subscriptItem, subscriptItem]
  refine .bind (.acceptOp "*") fun _ => .ite (fun _ => ?_) fun _ => ?_
  · exact .bind ih.expression fun _ => .pure _
  refine .bind follows_seesAssign fun assigns => .bind (.seesOp ":") fun _ => ?_
  -- with and without a lower bound the rest is the same
  refine (fun hslice => .ite (fun _ => .bind (.pure _) hslice) fun _ =>
    .bind ih.namedExpression fun _ => .bind (.pure _) hslice) fun lower => ?_
  refine .bind (.acceptOp ":") fun _ => .ite (fun _ => .ite (fun _ => ?_) fun _ => ?_) fun _ => ?_
  · exact .failure_bind
  · refine .bind ih.sliceBound fun _ => .bind (.acceptOp ":") fun _ => .ite (fun _ => ?_) ?_
    · exact .bind ih.sliceBound fun _ => .pure _
    · exact fun _ => .bind (.pure _) fun _ => .pure _
  · cases lower with
    | some e => exact .pure e
    | none => exact .failure

theorem follows_sliceBound : Follows (sliceBound (n + 1)) (sliceBound (m + 1)) := by
  rw [sliceBound, sliceBound]
  refine .bind (.seesOp ":") fun _ => .bind (.seesOp ",") fun _ => .bind (.seesOp "]") fun _ => ?_
  exact .ite (fun _ => .pure _) fun _ => .bind ih.expression fun _ => .pure _

theorem follows_arguments : Follows (arguments (n + 1)) (arguments (m + 1)) := by
  rw [arguments, arguments]
  intro ls ls' halike
  -- where the rule looks at the lexemes themselves, both texts have the same ones in front
  refine .get ?_
  split
  · obtain ⟨t, rfl, ht⟩ := halike.exists_cons (by nofun)
    exact .set ht (.pure _)
  · obtain ⟨t, rfl, -⟩ := halike.exists_cons (by nofun)
    exact ih.positionals halike
  · obtain ⟨t, rfl, -⟩ := halike.exists_cons (by nofun)
    exact ih.positionals halike
  · obtain ⟨t, rfl, ht⟩ := halike.exists_cons (by nofun)
    obtain ⟨t', rfl, -⟩ := ht.exists_cons (by nofun)
    exact ih.positionals halike
  · -- and where none of the cases fits one text, none of them fits the other
    rename_i hclose hstar hstars hname
    split
    · obtain ⟨t, rfl, -⟩ := halike.symm.exists_cons (by nofun)
      exact absurd rfl (hclose _)
    · obtain ⟨t, rfl, -⟩ := halike.symm.exists_cons (by nofun)
      exact absurd rfl (hstar _)
    · obtain ⟨t, rfl, -⟩ := halike.symm.exists_cons (by nofun)
      exact absurd rfl (hstars _)
    · obtain ⟨t, rfl, ht⟩ := halike.symm.exists_cons (by nofun)
      obtain ⟨t', rfl, -⟩ := ht.exists_cons (by nofun)
      exact absurd rfl (hname _ _)
    · refine Follows.bind ih.namedExpression (fun _ => .bind follows_seesClause fun _ => ?_) halike
      refine .ite (fun _ => ?_) fun _ => ?_
      · exact .bind ih.clauses fun _ => .bind (.expectOp ")") fun _ => .pure _
      refine .bind (.acceptOp ",") fun _ => .ite (fun _ => ?_) fun _ => ?_
      · exact .bind ih.positionals fun _ => .pure _
      · exact .bind (.expectOp ")") fun _ => .pure _

theorem follows_positionals : Follows (positionals (n + 1)) (positionals (m + 1)) := by
  -- what stands behind an argument, starred or not
  have hmore (e : Expr) :
      Follows (do
          if ← acceptOp "," then return .positional e :: (← positionals n)
          expectOp ")"
          return [.positional e])
        (do
          if ← acceptOp "," then return .positional e :: (← positionals m)
          expectOp ")"
          return [.positional e]) := by
    refine .bind (.acceptOp ",") fun _ => .ite (fun _ => ?_) fun _ => ?_
    · exact .bind ih.positionals fun _ => .pure _
    · exact .bind (.expectOp ")") fun _ => .pure _
  rw [positionals, positionals]
  intro ls ls' halike
  refine .get ?_
  split
  · obtain ⟨t, rfl, ht⟩ := halike.exists_cons (by nofun)
    exact .set ht (.pure _)
  · obtain ⟨t, rfl, -⟩ := halike.exists_cons (by nofun)
    exact Follows.bind (ih.keywordArguments false) (fun _ => .pure _) halike
  · obtain ⟨t, rfl, ht⟩ := halike.exists_cons (by nofun)
    obtain ⟨t', rfl, -⟩ := ht.exists_cons (by nofun)
    exact Follows.bind (ih.keywordArguments false) (fun _ => .pure _) halike
  · -- where no case fits one text, none of them fits the other
    rename_i hclose hstars hname
    split
    · obtain ⟨t, rfl, -⟩ := halike.symm.exists_cons (by nofun)
      exact absurd rfl (hclose _)
    · obtain ⟨t, rfl, -⟩ := halike.symm.exists_cons (by nofun)
      exact absurd rfl (hstars _)
    · obtain ⟨t, rfl, ht⟩ := halike.symm.exists_cons (by nofun)
      obtain ⟨t', rfl, -⟩ := ht.exists_cons (by nofun)
      exact absurd rfl (hname _ _)
    · refine Follows.bind (.acceptOp "*") (fun _ => .ite (fun _ => ?_) fun _ => ?_) halike
      · exact .bind ih.expression fun _ => .bind (.pure _) hmore
      · exact .bind ih.namedExpression hmore

theorem follows_keywordArguments (spread : Bool) :
    Follows (keywordArguments (n + 1) spread) (keywordArguments (m + 1) spread) := by
  rw [keywordArguments, keywordArguments]
  intro ls ls' halike
  refine .get ?_
  split
  · obtain ⟨t, rfl, ht⟩ := halike.exists_cons (by nofun)
    exact .set ht (.pure _)
  · obtain ⟨t, rfl, ht⟩ := halike.exists_cons (by nofun)
    obtain ⟨t', rfl, hrest⟩ := ht.exists_cons (by nofun)
    exact .set hrest (.bind ih.expression fun _ => .bind (ih.keywordRest spread) fun _ => .pure _)
  · obtain ⟨t, rfl, ht⟩ := halike.exists_cons (by nofun)
    exact .set ht (.bind ih.expression fun _ => .bind (ih.keywordRest true) fun _ => .pure _)
  · obtain ⟨t, rfl, ht⟩ := halike.exists_cons (by nofun)
    refine .ite (fun _ => .failure_bind) fun _ => .set ht ?_
    exact .bind ih.expression fun _ => .bind (ih.keywordRest false) fun _ => .pure _
  · exact Follows.failure halike

theorem follows_parameters (s : ParamState) :
    Follows (parameters (n + 1) s) (parameters (m + 1) s) := by
  rw [parameters, parameters]
  intro ls ls' halike
  refine .get ?_
  split
  · obtain ⟨t, rfl, -⟩ := halike.exists_cons (by nofun)
    exact Follows.ite (fun _ => .failure) (fun _ => .pure _) halike
  · obtain ⟨t, rfl, ht⟩ := halike.exists_cons (by nofun)
    exact .ite (fun _ => .failure_bind) fun _ => .set ht (ih.paramRest _)
  · obtain ⟨t, rfl, ht⟩ := halike.exists_cons (by nofun)
    obtain ⟨t', rfl, hrest⟩ := ht.exists_cons (by nofun)
    refine .ite (fun _ => .failure_bind) fun _ => .set hrest (.bind (.acceptOp ",") fun _ => ?_)
    exact .bind (.seesOp ":") fun _ => .ite (fun _ => .pure _) fun _ => .failure
  · obtain ⟨t, rfl, ht⟩ := halike.exists_cons (by nofun)
    obtain ⟨t', rfl, hrest⟩ := ht.exists_cons (by nofun)
    exact .ite (fun _ => .failure_bind) fun _ => .set hrest (ih.paramRest _)
  · obtain ⟨t, rfl, ht⟩ := halike.exists_cons (by nofun)
    obtain ⟨t', rfl, hrest⟩ := ht.exists_cons (by nofun)
    exact .ite (fun _ => .failure_bind) fun _ => .set hrest (ih.parameters _)
  · rename_i id rest
    obtain ⟨t, rfl, ht⟩ := halike.exists_cons (by nofun)
    -- what stands behind a parameter, with a default or without
    have hparam (fallback : Option Expr) :
        Follows (do
            if !s.starred && s.defaulted && fallback.isNone then failure
            paramRest n { s with
              params := s.params ++
                [.mk (if s.starred then .keywordOnly else .positional) id fallback]
              defaulted := s.defaulted || (!s.starred && fallback.isSome)
              waiting := false })
          (do
            if !s.starred && s.defaulted && fallback.isNone then failure
            paramRest m { s with
              params := s.params ++
                [.mk (if s.starred then .keywordOnly else .positional) id fallback]
              defaulted := s.defaulted || (!s.starred && fallback.isSome)
              waiting := false }) :=
      .ite (fun _ => .failure_bind) fun _ => ih.paramRest _
    refine .set ht (.bind (.acceptOp "=") fun _ => .ite (fun _ => ?_) fun _ => ?_)
    · exact .bind ih.expression fun _ => .bind (.pure _) hparam
    · exact .bind (.pure _) hparam
  · exact Follows.failure halike

theorem follows_keywordRest (spread : Bool) :
    Follows (keywordRest (n + 1) spread) (keywordRest (m + 1) spread) := by
  rw [keywordRest, keywordRest]
  refine .bind (.acceptOp ",") fun _ => .ite (fun _ => ih.keywordArguments spread) fun _ => ?_
  exact .bind (.expectOp ")") fun _ => .pure _

theorem follows_paramRest (s : ParamState) :
    Follows (paramRest (n + 1) s) (paramRest (m + 1) s) := by
  rw [paramRest, paramRest]
  refine .bind (.acceptOp ",") fun _ => .ite (fun _ => ih.parameters s) fun _ => ?_
  refine .bind (.seesOp ":") fun _ => .ite (fun _ => ?_) fun _ => .failure
  exact .ite (fun _ => .failure) fun _ => .pure _

theorem follows_links : Follows (links (n + 1)) (links (m + 1)) := by
  rw [links, links]
  refine .bind follows_compareOp fun op => ?_
  cases op with
  | some op => exact .bind (ih.binary 0) fun _ => .bind ih.links fun _ => .pure _
  | none => exact .pure _

/-- One depth of descent further. -/
theorem FollowsAt.succ : FollowsAt (n + 1) (m + 1) where
  expression := follows_expression ih
  namedExpression := follows_namedExpression ih
  element := follows_element ih
  elements := follows_elements ih
  disjunction := follows_disjunction ih
  conjunction := follows_conjunction ih
  more := follows_more ih
  inversion := follows_inversion ih
  links := follows_links ih
  binary := follows_binary ih
  binaryRest := follows_binaryRest ih
  factor := follows_factor ih
  primary := follows_primary ih
  trailers := follows_trailers ih
  atom := follows_atom ih
  parenthesized := follows_parenthesized ih
  bracketed := follows_bracketed ih
  braced := follows_braced ih
  dictItems := follows_dictItems ih
  clauses := follows_clauses ih
  tests := follows_tests ih
  targets := follows_targets ih
  targetRest := follows_targetRest ih
  target := follows_target ih
  subscripts := follows_subscripts ih
  subscriptRest := follows_subscriptRest ih
  subscriptItem := follows_subscriptItem ih
  sliceBound := follows_sliceBound ih
  arguments := follows_arguments ih
  positionals := follows_positionals ih
  keywordArguments := follows_keywordArguments ih
  keywordRest := follows_keywordRest ih
  parameters := follows_parameters ih
  paramRest := follows_paramRest ih

end Step

variable {n m : Nat}

/-- No function reads anything at depth zero. -/
theorem followsAt_zero (m : Nat) : FollowsAt 0 m := by
  constructor
  all_goals
    intros
    exact Follows.failure

/-- **What is read at one depth of descent is read at every greater one**, however the texts are cut
into strings. -/
theorem followsAt (h : n ≤ m) : FollowsAt n m := by
  induction n generalizing m with
  | zero => exact followsAt_zero m
  | succ n ih =>
      obtain ⟨k, rfl⟩ := Nat.exists_eq_add_of_lt h
      exact (ih (by omega : n ≤ n + k)).succ

theorem follows_wholeRest (h : n ≤ m) {k k' : Nat} (hk : k ≤ k') :
    Follows (whole.wholeRest n k) (whole.wholeRest m k') := by
  induction k generalizing k' with
  | zero => exact .failure
  | succ k ih =>
      obtain ⟨i, rfl⟩ := Nat.exists_eq_add_of_lt hk
      have hrest : Follows (whole.wholeRest n k) (whole.wholeRest m (k + i)) := ih (by omega)
      show Follows (whole.wholeRest n (k + 1)) (whole.wholeRest m (k + i + 1))
      rw [whole.wholeRest, whole.wholeRest]
      refine .atEnd (.pure _) (.bind (followsAt h).expression fun _ => ?_)
      refine .bind (.acceptOp ",") fun _ => .ite (fun _ => ?_) fun _ => ?_
      · exact .bind hrest fun _ => .pure _
      · exact .atEnd (.pure _) .failure

theorem follows_whole (h : n ≤ m) : Follows (whole n) (whole m) := by
  rw [whole, whole]
  refine .bind (followsAt h).expression fun _ => .bind (.acceptOp ",") fun _ => ?_
  refine .ite (fun _ => ?_) fun _ => .atEnd (.pure _) .failure
  exact .bind (follows_wholeRest h h) fun _ => .pure _

end Curly.Parse

namespace Curly

/-- **Texts with lexemes that are alike are read alike**: what one writes, another one writes that
is cut into no fewer strings. -/
theorem Expr.ofText?_of_alike {s t : List Char} {ls ls' : List Lexeme} {e : Expr}
    (hs : Lexeme.ofText s = some ls) (ht : Lexeme.ofText t = some ls')
    (halike : Lexeme.Alike ls ls') (hle : ls.length ≤ ls'.length) (h : Expr.ofText? s = some e) :
    Expr.ofText? t = some e := by
  have hread (s : List Char) (ls : List Lexeme) (hs : Lexeme.ofText s = some ls) :
      Expr.ofText? s = (Parse.whole (24 * (ls.length + 2)) ls).map Prod.fst := by
    rw [Expr.ofText?, hs]
    cases h : Parse.whole (24 * (ls.length + 2)) ls <;> simp [StateT.run, h]
  rw [hread s ls hs] at h
  obtain ⟨⟨_, rest⟩, hwhole, rfl⟩ := Option.map_eq_some_iff.1 h
  -- The list with more lexemes is read at a greater depth, which finds all that a smaller one
  -- finds.
  have hdepth : 24 * (ls.length + 2) ≤ 24 * (ls'.length + 2) := by omega
  obtain ⟨rest', hwhole', -⟩ := Parse.follows_whole hdepth halike hwhole
  rw [hread t ls' ht, hwhole']
  rfl

end Curly
