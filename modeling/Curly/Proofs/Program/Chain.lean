import Curly.Proofs.Program.Marker
import Curly.Proofs.Value.Key

/-!
A path in a marker and the same path in parentheses. The one is looked up, the other is a chain of
members. Both are rendered alike wherever the names of the path lead from dictionary to dictionary,
whatever the names are, as long as there is room for the parentheses of the chain.
-/

namespace Curly

open Form Lexer
open Text (dotted)

variable {w : List Char} {ws : List (List Char)} {entries : List (Value × Value)} {v : Value}

/-! ## Contents of markers -/

theorem Lexer.isContent_dotted (hw : isSegment w = true) (hws : ∀ v ∈ ws, isSegment v = true) :
    IsContent (dotted w ws) := by
  refine isContent_of_not_mem (Lexeme.not_mem_dotted hw hws (by decide)) (fun c hc hmem => ?_)
    (Term.strip_dotted hw hws)
  have hmarks : ['\x7b', '#', '/'].all (fun c => !Lexeme.isDottedChar c) = true := by decide
  have hchar := Lexeme.isDottedChar_of_mem hw hws c (List.mem_of_head? hc)
  have hmark := List.all_eq_true.1 hmarks c hmem
  rw [hchar] at hmark
  cases hmark

theorem Lexer.isContent_enclosed (hw : isSegment w = true) (hws : ∀ v ∈ ws, isSegment v = true) :
    IsContent ('(' :: (dotted w ws ++ [')'])) := by
  refine isContent_of_not_mem ?_ (fun c hc => ?_) (Term.strip_enclosed _)
  · simp [Lexeme.not_mem_dotted hw hws (c := '\x7d') (by decide)]
  · cases hc
    decide

/-! ## Paths and chains -/

variable {path : List String}

/-- The text of a path of names, its names as words. -/
theorem Term.exists_words (hpath : path ≠ []) (hnames : ∀ key ∈ path, IsName key.toList)
    (hthis : path.head? ≠ some "this") :
    ∃ w ws, (String.intercalate "." path).toList = dotted w ws ∧
      (w :: ws).map String.ofList = path ∧ (∀ u ∈ w :: ws, IsName u) ∧ w ≠ "this".toList := by
  obtain ⟨key, keys, rfl⟩ := List.exists_cons_of_ne_nil hpath
  refine ⟨_, _, Text.toList_intercalate_dot key keys, by simp [Function.comp_def], ?_, ?_⟩
  · rw [← List.map_cons, List.forall_mem_map]
    exact hnames
  · exact fun heq => hthis (congrArg some (String.toList_injective heq))

theorem Value.Leads.ne_nil (h : Value.Leads entries path v) : path ≠ [] := by
  cases h <;> simp

/-- **A path and the same path in parentheses are rendered alike.** Its names are words in ASCII
that are not reserved, the first of them is not `this`, and from the data they lead from dictionary
to dictionary. Outside of loops, both the path, which is looked up, and the path in parentheses,
which is a chain of members, then stand for the value that the names lead to, in every program; and
templates of one of them make the same text of the data, that of the value, or fail with the same
fault where the value has none. -/
theorem render_path_eq_chain (hnames : ∀ key ∈ path, Term.IsName key.toList)
    (hthis : path.head? ≠ some "this") (hlength : path.length + 3 ≤ Lexeme.bracketLimit)
    (h : Value.Leads entries path v) :
    let text := (String.intercalate "." path).toList
    let enclosed := '(' :: (text ++ [')'])
    (∀ s ∈ [text, enclosed],
      ∃ t, Term.readAccess [] s = .ok t ∧ t.Shows (.dict entries) v (path.length + 1)) ∧
    ∀ raw,
      render (String.ofList (markerText raw text)) (.dict entries) =
        render (String.ofList (markerText raw enclosed)) (.dict entries) ∧
      render (String.ofList (markerText raw text)) (.dict entries) =
        ((v.shown raw).mapError .failed).mapError .render := by
  obtain ⟨w, ws, htext, rfl, hwords, hfirst⟩ := Term.exists_words h.ne_nil hnames hthis
  obtain ⟨hw, hws⟩ := Term.areSegments hwords
  have hshows := Term.exists_shows hwords hfirst h
  rw [List.length_map, List.length_cons] at hlength ⊢
  rw [htext]
  refine ⟨hshows, fun raw => ?_⟩
  -- each of the two templates makes what its term shows, and both terms show the same value
  obtain ⟨t, hread, ht⟩ := hshows _ List.mem_cons_self
  obtain ⟨u, hread', hu⟩ := hshows _ (List.mem_cons_of_mem _ List.mem_cons_self)
  have hpath := @render_marker raw _ _ _ _ _ (isContent_dotted hw hws) hread ht (by omega)
  have hchain := @render_marker raw _ _ _ _ _ (isContent_enclosed hw hws) hread' hu (by omega)
  exact ⟨hpath.trans hchain.symm, hpath⟩

/-- A number is shown by its figures. -/
theorem Value.shown_one : (((Value.int 1).shown false).mapError RenderFailure.failed).mapError
    Failure.render = .ok "1" := by
  have hshown : ((Value.int 1).shown false).toOption = some "1" := by decide +kernel
  rw [Except.eq_ok_of_toOption hshown]
  rfl

/-- Names of functions and of methods are names like others. -/
theorem render_path_eq_chain_method :
    render "\x7b\x7blen.items\x7d\x7d" (.dict [(.str "len", .dict [(.str "items", .int 1)])]) =
        .ok "1" ∧
      render "\x7b\x7b(len.items)\x7d\x7d"
        (.dict [(.str "len", .dict [(.str "items", .int 1)])]) = .ok "1" := by
  have hleads : Value.Leads [(.str "len", .dict [(.str "items", .int 1)])] ["len", "items"]
      (.int 1) :=
    .step (Value.field?_cons_self _ _ _) (.last (Value.field?_cons_self _ _ _))
  obtain ⟨hsame, hpath⟩ := (render_path_eq_chain (by decide +kernel) (by decide) (by decide)
    hleads).2 false
  rw [Value.shown_one] at hpath
  exact ⟨hpath, hsame.symm.trans hpath⟩

/-! ## Paths that are too long for parentheses -/

/-- A path of names that is looked up is rendered however long it is. -/
theorem render_path (hnames : ∀ key ∈ path, Term.IsName key.toList)
    (hthis : path.head? ≠ some "this") (hmethods : ∀ key ∈ path, namesMethod key.toList = false)
    (h : Value.Leads entries path v) (raw : Bool) :
    render (String.ofList (markerText raw (String.intercalate "." path).toList)) (.dict entries) =
      ((v.shown raw).mapError .failed).mapError .render := by
  obtain ⟨w, ws, htext, rfl, hwords, hfirst⟩ := Term.exists_words h.ne_nil hnames hthis
  obtain ⟨hw, hws⟩ := Term.areSegments hwords
  have hmethod : ws.any namesMethod = false := by
    rw [List.any_eq_false]
    intro u hu
    have hkey := hmethods _ (List.mem_map_of_mem (List.mem_cons_of_mem _ hu))
    rw [String.toList_ofList] at hkey
    simp [hkey]
  have hread := (Term.readAccess_names hwords hfirst).1
  rw [hmethod, if_neg Bool.false_ne_true] at hread
  rw [htext]
  exact render_marker (isContent_dotted hw hws) hread (Term.shows_path hw hws h) (by decide)

/-- A path of names in parentheses is not rendered where there is no room for those of its chain. -/
theorem render_chain_of_long (hnames : ∀ key ∈ path, Term.IsName key.toList)
    (hthis : path.head? ≠ some "this") (hlength : Lexeme.bracketLimit < path.length + 3)
    (raw : Bool) (data : Value) (text : String) :
    render (String.ofList
      (markerText raw ('(' :: ((String.intercalate "." path).toList ++ [')'])))) data ≠
        .ok text := by
  have hne : path ≠ [] := by
    rintro rfl
    exact absurd hlength (by decide)
  obtain ⟨w, ws, htext, rfl, hwords, hfirst⟩ := Term.exists_words hne hnames hthis
  obtain ⟨hw, hws⟩ := Term.areSegments hwords
  rw [List.length_map, List.length_cons] at hlength
  rw [htext]
  exact render_marker_of_needs (isContent_enclosed hw hws)
    (Term.readAccess_names hwords hfirst).2 (Term.needs_chain _ w ws) (by omega) data text

/-- Dictionaries in one another, each under the same name, around a number. -/
def Value.nested : Nat → Value
  | 0 => .int 1
  | n + 1 => .dict [(.str "a", nested n)]

theorem Value.leads_nested (n : Nat) :
    Leads [(.str "a", nested n)] (List.replicate (n + 1) "a") (.int 1) := by
  induction n with
  | zero => exact .last (field?_cons_self _ _ _)
  | succ n ih => exact .step (field?_cons_self _ _ _) ih

/-- In parentheses, a path of as many names as make a line too deep is not rendered; nor is a name
beyond ASCII without parentheses. -/
theorem not_render_path_eq_chain :
    let path := List.replicate 198 "a"
    let entries := [(.str "a", .nested 197)]
    let text := (String.intercalate "." path).toList
    (∀ key ∈ path, Term.IsName key.toList) ∧ path.head? ≠ some "this" ∧
      Value.Leads entries path (.int 1) ∧
      render (String.ofList (markerText false text)) (.dict entries) = .ok "1" ∧
      (∀ s, render (String.ofList (markerText false ('(' :: (text ++ [')'])))) (.dict entries) ≠
        .ok s) ∧
      ∀ data s, render "\x7b\x7bé\x7d\x7d" data ≠ .ok s := by
  intro path entries text
  have hnames : ∀ key ∈ path, Term.IsName key.toList := by
    intro key hkey
    rw [List.eq_of_mem_replicate hkey]
    decide +kernel
  have hmethods : ∀ key ∈ path, namesMethod key.toList = false := by
    intro key hkey
    rw [List.eq_of_mem_replicate hkey]
    decide
  have hthis : path.head? ≠ some "this" := by decide
  have hleads : Value.Leads entries path (.int 1) := Value.leads_nested 197
  refine ⟨hnames, hthis, hleads, ?_, ?_, ?_⟩
  · exact (render_path hnames hthis hmethods hleads false).trans Value.shown_one
  · -- the names, each with its brackets, go deeper than the reader follows
    have hlength : Lexeme.bracketLimit < path.length + 3 := by
      rw [List.length_replicate]
      decide
    exact render_chain_of_long hnames hthis hlength false _
  · -- the name is refused before there are data
    intro data s hrender
    have hnone : (Program.ofTemplate "\x7b\x7bé\x7d\x7d").toOption.isSome = false := by
      decide +kernel
    obtain ⟨p, hp, -⟩ := Except.bind_eq_ok_iff.1 hrender
    rw [Except.mapError_eq_ok_iff.1 hp] at hnone
    cases hnone

end Curly
