import Curly.Expr.Redirect
import Curly.Proofs.Expr.Dotted
import Curly.Proofs.Term.Code

/-!
Chains of members. In parentheses a dotted name is the chain of attributes that it is without them.
Redirected, a chain reads its first name from the data and then member by member; its code opens one
parenthesis for each of its names, and its value is what the names lead to from dictionary to
dictionary.
-/

namespace Curly

open Form Lexeme
open Text (dotted)

variable {w : List Char} {ws : List (List Char)}

/-! ## In parentheses -/

/-- Segments in parentheses are read one by one, too. -/
theorem Lexeme.ofText_enclosed (hw : isSegment w = true) (hws : ∀ v ∈ ws, isSegment v = true)
    (hdollar : ∀ v ∈ w :: ws, '$' ∉ v) :
    ofText ('(' :: (dotted w ws ++ [')'])) =
      some (.op "(" :: (ofWord w :: (ofDots ws ++ [.op ")"]))) := by
  have hreturn : '\r' ∉ dotted w ws ++ [')'] := by
    rw [List.mem_append, not_or]
    exact ⟨not_mem_dotted hw hws (by decide), by decide⟩
  have hclose : scan [")"] [')'] = some [.op ")"] := by
    have hscan := @scan_close [] []
    rwa [normalizeLines, normalizeLines_of_not_mem (by decide), scan_nil] at hscan
  rw [ofText_eq_scan (by decide), scan_open (by decide), normalizeLines_of_not_mem hreturn,
    scan_dotted hw hws hdollar (breaks_cons (by decide) _), hclose]
  rfl

namespace Parse

variable {depth : Nat} {ls rest : List Lexeme} {e : Expr}

/-- An expression in parentheses, with nothing else between them, is an atom. -/
theorem takes_atom_enclosed (h : Takes (.op ")" :: rest) expression depth ls (some e))
    (he : e.isStarred = false) (hclose : ls.head? ≠ some (.op ")"))
    (hstar : ls.head? ≠ some (.op "*")) (hassign : ∀ id tail, ls ≠ .name id :: .op ":=" :: tail) :
    Takes rest atom (depth + 4) (.op "(" :: ls) (some e) := by
  intro m
  -- the parenthesis is left by one rule after the other, from the inside out
  have hnamed : namedExpression (m + depth + 1) ls = some (e, .op ")" :: rest) := by
    have hget : (get : Parse (List Lexeme)) ls = some (ls, ls) := rfl
    rw [namedExpression]
    refine (bind_of_eq_some hget).trans ?_
    split
    · exact absurd rfl (hassign _ _)
    · exact (bind_of_eq_some (h m)).trans rfl
  have helement : element (m + depth + 2) ls = some (e, .op ")" :: rest) := by
    rw [element]
    exact (accept_bind_of_ne (k := .op "*") hstar).trans hnamed
  have hatom : atom (m + depth + 3 + 1) (.op "(" :: ls) = parenthesized (m + depth + 3) ls := by
    rw [atom]
    rfl
  have hunstarred : ¬e.isStarred = true := by simp [he]
  -- no tuple, no comprehension: the closing parenthesis comes right behind the expression
  show atom (m + depth + 3 + 1) _ = _
  rw [hatom, parenthesized]
  refine (accept_bind_of_ne (k := .op ")") hclose).trans ?_
  refine (bind_of_eq_some helement).trans ?_
  refine (accept_bind_of_ne (k := .op ",") (by simp)).trans ?_
  exact congrFun (if_neg hunstarred) _

theorem isStarred_attributes (e : Expr) (he : e.isStarred = false) (ws : List (List Char)) :
    (attributes e ws).isStarred = false := by
  induction ws generalizing e with
  | nil => exact he
  | cons v ws ih => exact ih _ rfl

/-- Words that are not reserved write a chain of attributes of the first. -/
theorem dotted?_of_not (hreserved : ∀ v ∈ w :: ws, isReserved v = false) :
    dotted? w ws = some (attributes (.name (String.ofList w)) ws) := by
  obtain ⟨hw, hws⟩ := List.forall_mem_cons.1 hreserved
  have hne (u : List Char) (hu : isReserved u = true) : w ≠ u := by
    rintro rfl
    rw [hw] at hu
    cases hu
  have hany : ws.any isReserved = false := List.any_eq_false.2 (by simpa using hws)
  rw [dotted?, ofWord?, if_neg (hne _ rfl), if_neg (hne _ rfl), if_neg (hne _ rfl), hw,
    if_neg Bool.false_ne_true, Option.bind_some, attributes?, hany, if_neg Bool.false_ne_true]

end Parse

open Parse in
/-- **Names with dots between them write the same chain of attributes in parentheses.** -/
theorem Expr.ofText?_enclosed (hw : isSegment w = true) (hws : ∀ v ∈ ws, isSegment v = true)
    (hdollar : ∀ v ∈ w :: ws, '$' ∉ v) (hreserved : ∀ v ∈ w :: ws, Parse.isReserved v = false) :
    Expr.ofText? ('(' :: (dotted w ws ++ [')'])) =
      some (attributes (.name (String.ofList w)) ws) := by
  have hplain : Parse.isReserved w = false := hreserved w List.mem_cons_self
  have hne (u : List Char) (hu : Parse.isReserved u = true) : w ≠ u := by
    rintro rfl
    rw [hplain] at hu
    cases hu
  have hhead : w ∉ ["lambda".toList, "not".toList, "await".toList] := by
    simp only [List.mem_cons, List.not_mem_nil, or_false, not_or]
    exact ⟨hne _ rfl, hne _ rfl, hne _ rfl⟩
  have hinner := takes_expression_dotted (ends_close []) hhead ws
  rw [dotted?_of_not hreserved, ofWord_of_not hplain] at hinner
  have hassign (id : String) (tail : List Lexeme) :
      Lexeme.name (String.ofList w) :: (ofDots ws ++ [.op ")"]) ≠ .name id :: .op ":=" :: tail := by
    cases ws <;> simp [ofDots]
  have hatom := takes_atom_enclosed hinner (isStarred_attributes _ rfl ws) (by simp) (by simp)
    hassign
  -- nothing stands behind the closing parenthesis
  have hprimary : Takes [] primary (ws.length + 19)
      (.op "(" :: (.name (String.ofList w) :: (ofDots ws ++ [.op ")"])))
      (some (attributes (.name (String.ofList w)) ws)) := by
    intro m
    show primary (m + (ws.length + 18) + 1) _ = _
    rw [primary]
    exact (bind_of_eq_some (hatom m)).trans (trailers_ends ends_nil _ _)
  have hfactor := takes_factor ends_nil hprimary rfl
  have hinversion := takes_inversion_of_factor ends_nil hfactor (by simp)
  have hwhole := takes_whole (takes_expression_of_inversion ends_nil hinversion (by simp))
  have hlexemes := Lexeme.ofText_enclosed hw hws hdollar
  rw [ofWord_of_not hplain] at hlexemes
  refine ofText?_of_takes hlexemes hwhole ?_
  simp only [List.length_cons, List.length_append, Lexeme.length_ofDots]
  omega

/-! ## Members -/

namespace Expr

/-- The members of an expression, one in the other. -/
def members (e : Expr) (keys : List String) : Expr := keys.foldl Expr.member e

/-- Redirected, the attributes of a name are members of what the data have under it. -/
theorem redirect_attributes {this id : String} (hid : id ≠ "this") (ws : List (List Char)) :
    (Parse.attributes (.name id) ws).redirect this [] =
      members (.resolve id) (ws.map String.ofList) := by
  -- For any expression in front of the attributes, since each step makes a new one.
  have hchain (e e' : Expr) (scopes : List NameScope) (ws : List (List Char))
      (he : e.redirected this scopes = (e', scopes)) :
      (Parse.attributes e ws).redirected this scopes =
        (members e' (ws.map String.ofList), scopes) := by
    induction ws generalizing e e' with
    | nil => exact he
    | cons v ws ih =>
        refine ih _ (e'.member (String.ofList v)) ?_
        rw [Expr.redirected]
        simp [Bind.bind, StateT.bind, he]
        rfl
  have hname : (Expr.name id).redirected this [⟨true, []⟩] = (.resolve id, [⟨true, []⟩]) := by
    rw [redirected_name, if_neg hid]
    rfl
  rw [Expr.redirect]
  exact congrArg Prod.fst (hchain _ _ _ ws hname)

theorem isStarred_members {e : Expr} (he : e.isStarred = false) (keys : List String) :
    (members e keys).isStarred = false := by
  induction keys generalizing e with
  | nil => exact he
  | cons key keys ih => exact ih rfl

theorem assigned_members {e : Expr} (he : e.assigned = []) (keys : List String) :
    (members e keys).assigned = [] := by
  induction keys generalizing e with
  | nil => exact he
  | cons key keys ih =>
      refine ih ?_
      simp [member, apply, str, assigned, assignedOfArguments, he]

theorem isValid_members {c : Standing} {e : Expr} (he : e.isValid c = true) (keys : List String) :
    (members e keys).isValid c = true := by
  induction keys generalizing e with
  | nil => exact he
  | cons key keys ih =>
      refine ih ?_
      simp [member, apply, str, isValid, areValidArguments, keywordNames, areDistinct, he]

/-- A call is printed as code of generated programs is. -/
theorem print_apply (f : String) (a b : Expr) :
    (apply (.name f) [a, b]).print = Term.callCode f [a.print, b.print] := by
  rfl

theorem print_str (s : String) : (str s).print = Text.Quoted.ofString s := by
  rfl

/-- Each member opens one parenthesis more. -/
theorem passes_members {e : Expr} {depth : Nat} (he : Passes depth e.print) (keys : List String) :
    Passes (keys.length + depth) (members e keys).print := by
  induction keys generalizing e depth with
  | nil => exact he.mono (Nat.le_add_left _ _)
  | cons key keys ih =>
      have hmember : Passes (depth + 1) (e.member key).print := by
        rw [member, print_apply, print_str]
        exact passes_call (isPlainWord_helper .member) (by simpa using ⟨he, passes_ofString key⟩)
      exact (ih hmember).mono (by rw [List.length_cons]; omega)

/-- There is no member without room for as many parentheses as there are keys. -/
theorem needs_members {e : Expr} {depth : Nat} (he : Needs depth e.print) (keys : List String) :
    Needs (keys.length + depth) (members e keys).print := by
  induction keys generalizing e depth with
  | nil => rwa [List.length_nil, Nat.zero_add]
  | cons key keys ih =>
      have hmember : Needs (depth + 1) (e.member key).print := by
        rw [member, print_apply]
        exact needs_call (isPlainWord_helper .member) he _
      have hsum : (key :: keys).length + depth = keys.length + (depth + 1) := by
        rw [List.length_cons]
        omega
      rw [hsum]
      exact ih hmember

theorem needs_resolve (id : String) : Needs 1 (resolve id).print := by
  rw [resolve, print_apply]
  exact needs_call (isPlainWord_helper .resolve) (needs_zero _) _

theorem passes_resolve (id : String) : Passes 1 (resolve id).print := by
  rw [resolve, print_apply, print_str]
  refine passes_call (isPlainWord_helper .resolve) ?_
  simpa using ⟨passes_word (by decide), passes_ofString id⟩

end Expr

end Curly
