import Curly.Listing
import Mathlib.Data.List.Basic
import Mathlib.Tactic.ByContra

/-!
Outlines: the lines of a listing, each with the lines below it. How deep the lines are indented
tells all of it. If exactly the lines that open a block have lines below them, then a listing gets
deeper right behind such a line, by one level, and nowhere else.
-/

namespace Curly

/-! ## Levels and lines of a listing -/

namespace Listing

/-- The lines that steps add to a listing, each with the level at which it is added. -/
def lines (level : Int) : List ListingStep → List (Int × String)
  | [] => []
  | .line text :: rest => (level, text) :: lines level rest
  | .indent :: rest => lines (level + width) rest
  | .dedent :: rest => lines (level - width) rest

/-- The text of a listing is its lines, each behind the blanks of its level. -/
theorem text_run (l : Listing) (steps : List ListingStep) :
    (l.run steps).text =
      l.text ++ String.join ((lines l.level steps).map fun x => margin x.1 ++ x.2 ++ "\n") := by
  induction steps generalizing l with
  | nil => simp [run, lines]
  | cons s rest ih =>
    show ((l.step s).run rest).text = _
    rw [ih]
    cases s with
    | line text => simp [step, lines, String.append_assoc]
    | indent => rfl
    | dedent => rfl

end Listing

/-! ## Outlines -/

/-- A line with the lines below it. -/
inductive Outline
  | line (text : String) (below : List Outline)
  deriving Inhabited

namespace Outline

mutual

/-- The lines of an outline from a level on, each with its level. -/
def lines (level : Int) : Outline → List (Int × String)
  | .line text below => (level, text) :: linesOfAll (level + Listing.width) below

/-- The lines of outlines from a level on. -/
def linesOfAll (level : Int) : List Outline → List (Int × String)
  | [] => []
  | o :: os => o.lines level ++ linesOfAll level os

end

/-- Groups lines by their levels: the lines behind a line, as far as they are deeper, are below
it. -/
def group : List (Int × String) → List Outline
  | [] => []
  | (level, text) :: rest =>
    .line text (group (rest.takeWhile fun x => level < x.1)) ::
      group (rest.dropWhile fun x => level < x.1)
termination_by lines => lines.length
decreasing_by
  · exact Nat.lt_succ_of_le (List.takeWhile_sublist _).length_le
  · exact Nat.lt_succ_of_le (List.dropWhile_sublist _).length_le

theorem linesOfAll_append (level : Int) (os os' : List Outline) :
    linesOfAll level (os ++ os') = linesOfAll level os ++ linesOfAll level os' := by
  induction os with
  | nil => rfl
  | cons o os ih => rw [List.cons_append, linesOfAll, linesOfAll, ih, List.append_assoc]

mutual

theorem le_of_mem_lines {level : Int} : (o : Outline) → ∀ x ∈ o.lines level, level ≤ x.1
  | .line text below => by
      rw [lines, List.forall_mem_cons]
      refine ⟨Int.le_refl _, fun x hx => ?_⟩
      have hx := le_of_mem_linesOfAll below x hx
      rw [Listing.width] at hx
      omega

theorem le_of_mem_linesOfAll {level : Int} : (os : List Outline) →
    ∀ x ∈ linesOfAll level os, level ≤ x.1
  | [] => nofun
  | o :: os => by
      rw [linesOfAll, List.forall_mem_append]
      exact ⟨le_of_mem_lines o, le_of_mem_linesOfAll os⟩

end

/-- Lines below a line are deeper. -/
theorem lt_of_mem_linesOfAll {level : Int} (os : List Outline) :
    ∀ x ∈ linesOfAll (level + Listing.width) os, level < x.1 := by
  intro x hx
  have hx := le_of_mem_linesOfAll os x hx
  rw [Listing.width] at hx
  omega

/-- The first of the lines of outlines has the level of all of them. -/
theorem level_of_mem_head? {level : Int} (os : List Outline) :
    ∀ x ∈ (linesOfAll level os).head?, x.1 = level := by
  cases os with
  | nil => nofun
  | cons o os =>
    obtain ⟨text, below⟩ := o
    intro x hx
    cases hx
    rfl

mutual

/-- The lines of an outline group to it, whatever lines of no deeper level follow. -/
theorem group_lines_append {level : Int} {rest : List (Int × String)}
    (hrest : ∀ x ∈ rest.head?, x.1 ≤ level) : (o : Outline) →
    group (o.lines level ++ rest) = o :: group rest
  | .line text below => by
      have hbelow : ∀ x ∈ linesOfAll (level + Listing.width) below, level < x.1 :=
        lt_of_mem_linesOfAll below
      rw [lines, List.cons_append, group,
        List.takeWhile_append_of_pos (by simpa using hbelow),
        List.dropWhile_append_of_pos (by simpa using hbelow)]
      -- The group ends where the rest begins, which is no deeper.
      have hstops : rest.takeWhile (fun x => decide (level < x.1)) = [] ∧
          rest.dropWhile (fun x => decide (level < x.1)) = rest := by
        cases rest with
        | nil => exact ⟨rfl, rfl⟩
        | cons x rest =>
          have hx : ¬level < x.1 := Int.not_lt.2 (hrest x rfl)
          simp [hx]
      rw [hstops.1, hstops.2, List.append_nil, group_linesOfAll below]

/-- **Lines group to the outlines that they are the lines of.** -/
theorem group_linesOfAll {level : Int} : (os : List Outline) → group (linesOfAll level os) = os
  | [] => by rw [linesOfAll, group]
  | o :: os => by
      have hhead : ∀ x ∈ (linesOfAll level os).head?, x.1 ≤ level :=
        fun x hx => Int.le_of_eq (level_of_mem_head? os x hx)
      rw [linesOfAll, group_lines_append hhead o, group_linesOfAll os]

end

/-! ### Where lines get deeper -/

/-- What lines that open a block begin with. -/
def openers : List String := ["def ", "if ", "for "]

/-- A line that opens a block. -/
def Opens (text : String) : Prop := ∃ w ∈ openers, w.toList <+: text.toList

/-- Lines get deeper right behind a line that opens a block, by one level, and nowhere else. -/
def Descends : List (Int × String) → Prop
  | [] => True
  | x :: rest =>
    (Opens x.2 → ∃ y ∈ rest.head?, y.1 = x.1 + Listing.width) ∧
    (¬Opens x.2 → ∀ y ∈ rest.head?, y.1 ≤ x.1) ∧ Descends rest

theorem descends_append {front back : List (Int × String)} (hf : Descends front)
    (hb : Descends back) (h : ∀ x ∈ front, ∀ y ∈ back.head?, y.1 ≤ x.1) :
    Descends (front ++ back) := by
  induction front with
  | nil => exact hb
  | cons x front ih =>
    obtain ⟨hopens, hcloses, hf⟩ := hf
    obtain ⟨hx, hfront⟩ := List.forall_mem_cons.1 h
    have ih := ih hf hfront
    cases front with
    | nil =>
      -- the last line in front opens no block, for nothing is below it there
      have hno : ¬Opens x.2 := fun ho => nomatch hopens ho
      exact ⟨fun ho => absurd ho hno, fun _ => hx, ih⟩
    | cons x' front => exact ⟨hopens, hcloses, ih⟩

mutual

/-- An outline in which exactly the lines that open a block have lines below them. -/
def IsFormed : Outline → Prop
  | .line text below => (Opens text ↔ below ≠ []) ∧ areFormed below

/-- `IsFormed` for several outlines. -/
def areFormed : List Outline → Prop
  | [] => True
  | o :: os => o.IsFormed ∧ areFormed os

end

theorem areFormed_append {os os' : List Outline} :
    areFormed (os ++ os') ↔ areFormed os ∧ areFormed os' := by
  induction os with
  | nil => simp [areFormed]
  | cons o os ih => rw [List.cons_append, areFormed, areFormed, ih, and_assoc]

theorem isFormed_leaf {text : String} (h : ¬Opens text) : (line text []).IsFormed :=
  ⟨⟨fun ho => absurd ho h, fun hne => absurd rfl hne⟩, trivial⟩

theorem isFormed_block {text : String} {below : List Outline} (h : Opens text) (hne : below ≠ [])
    (hbelow : areFormed below) : (line text below).IsFormed :=
  ⟨⟨fun _ => hne, fun _ => h⟩, hbelow⟩

mutual

theorem IsFormed.descends (level : Int) : (o : Outline) → o.IsFormed → Descends (o.lines level)
  | .line text below, ⟨hopens, hbelow⟩ => by
      refine ⟨fun ho => ?_, fun ho => ?_, descends_of_areFormed _ below hbelow⟩
      · cases below with
        | nil => exact absurd rfl (hopens.1 ho)
        | cons o os =>
          obtain ⟨text', below'⟩ := o
          exact ⟨_, rfl, rfl⟩
      · have hnil : below = [] := by_contra fun hne => ho (hopens.2 hne)
        subst hnil
        exact nofun

theorem descends_of_areFormed (level : Int) : (os : List Outline) → areFormed os →
    Descends (linesOfAll level os)
  | [], _ => trivial
  | o :: os, ⟨ho, hos⟩ => by
      refine descends_append (ho.descends level) (descends_of_areFormed level os hos) ?_
      intro x hx y hy
      rw [level_of_mem_head? os y hy]
      exact le_of_mem_lines o x hx

end

end Outline

end Curly
