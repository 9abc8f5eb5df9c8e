import Curly.Assignment
import Curly.Lookup
import Curly.Proofs.Except
import Curly.Proofs.Loaded
import Curly.Proofs.Text.Search
import Curly.Proofs.Value.Key

/-!
What assignments set is found again. In data in which no dictionary stands in two places an
assignment changes what stands under its path and nothing else, so a later one touches an earlier
one only if one of the two paths begins with the other.
-/

namespace Curly

open Loaded

namespace Assignment

variable {data d : Loaded} {mark : Option Nat} {keys : List String} {key : String}
variable {entries inner : List (Value × Loaded)}

/-! ## Dictionaries under keys -/

theorem field?_insert_str {key' : String} :
    Value.field? key (Value.insert (.str key') data entries) =
      if key = key' then some data else Value.field? key entries := by
  rw [Value.field?, Value.find?_insert (.str key'), Value.field?]
  by_cases h : key = key'
  · rw [if_pos (Value.equal_str_right.2 (congrArg Value.str h)), if_pos h]
  · rw [if_neg fun heq => h (Value.str.inj (Value.equal_str_right.1 heq)), if_neg h]

theorem inside_insert :
    inside key (Value.insert (.str key) (.dict mark inner) entries) = (mark, inner) := by
  rw [inside, field?_insert_str, if_pos rfl]
  rfl

theorem inside_insert_of_ne {key' : String} (h : key ≠ key') :
    inside key (Value.insert (.str key') data entries) = inside key entries := by
  rw [inside, field?_insert_str, if_neg h, inside]

/-- A dictionary under a key stands there, or is without any marks. -/
theorem field?_or_of_inside (h : inside key entries = (mark, inner)) :
    Value.field? key entries = some (.dict mark inner) ∨ mark = none ∧ entryMarks inner = [] := by
  rw [inside] at h
  cases hd : Value.field? key entries with
  | none =>
      rw [hd] at h
      cases h
      exact .inr ⟨rfl, rfl⟩
  | some d =>
      rw [hd, Option.bind_some] at h
      -- only a dictionary that was loaded has a mark of its own
      cases d with
      | plain v =>
          cases v with
          | dict es =>
              cases h
              exact .inr ⟨rfl, entryMarks_plainEntries es⟩
          | _ =>
              cases h
              exact .inr ⟨rfl, rfl⟩
      | dict mark' es =>
          cases h
          exact .inl rfl
      | list | tuple =>
          cases h
          exact .inr ⟨rfl, rfl⟩

/-- A dictionary under a key has its marks from there. -/
theorem count_inside (m : Nat) (h : inside key entries = (mark, inner)) :
    mark.toList.count m + (entryMarks inner).count m ≤ (entryMarks entries).count m := by
  have hheld := count_heldMarks_le (.str key) entries m
  obtain hfield | ⟨rfl, hinner⟩ := field?_or_of_inside h
  · rw [Value.field?] at hfield
    rw [heldMarks, hfield] at hheld
    simpa [marks, List.count_append] using hheld
  · simp [hinner]

theorem nodup_inside (h : inside key entries = (mark, inner))
    (hentries : (entryMarks entries).Nodup) : (entryMarks inner).Nodup := by
  rw [List.nodup_iff_count_le_one] at hentries ⊢
  intro m
  have hle := count_inside m h
  have hone := hentries m
  omega

/-! ## Paths -/

/-- What a path of keys leads to, from dictionary to dictionary. -/
def under? : (keys : List String) → List (Value × Loaded) → Option Loaded
  | [], _ => none
  | [key], entries => Value.field? key entries
  | key :: key' :: keys, entries => under? (key' :: keys) (inside key entries).2

theorem under?_nil (keys : List String) : under? keys [] = none := by
  induction keys with
  | nil => rfl
  | cons key keys ih =>
      cases keys with
      | nil => rfl
      | cons key' keys => exact ih

/-- Paths that lead to different places: none of them begins with the other. -/
def Apart (keys keys' : List String) : Prop := ¬keys <+: keys' ∧ ¬keys' <+: keys

theorem setPath_cons (data : Loaded) (key key' : String) (keys : List String)
    (h : inside key entries = (mark, inner)) : setPath data (key :: key' :: keys) entries =
      Value.insert (.str key) (.dict mark (setPath data (key' :: keys) inner)) entries := by
  rw [setPath, h]
  exact List.cons_ne_nil _ _

/-- What is set under a path is found there. -/
theorem under?_setPath (hkeys : keys ≠ []) :
    under? keys (setPath data keys entries) = some data := by
  induction keys generalizing entries with
  | nil => exact absurd rfl hkeys
  | cons key keys ih =>
      cases keys with
      | nil => rw [under?, setPath, field?_insert_str, if_pos rfl]
      | cons key' keys =>
          rw [under?, setPath_cons data key key' keys rfl, inside_insert]
          exact ih (List.cons_ne_nil _ _)

/-- Whatever is set under a path, it is set under its first key. -/
theorem exists_setPath_eq (data : Loaded) (key : String) (keys : List String)
    (entries : List (Value × Loaded)) :
    ∃ d, setPath data (key :: keys) entries = Value.insert (.str key) d entries := by
  cases keys with
  | nil => exact ⟨data, rfl⟩
  | cons key' keys => exact ⟨_, rfl⟩

/-- Under other paths nothing changes. -/
theorem under?_setPath_of_apart {others : List String} (h : Apart others keys) :
    under? others (setPath data keys entries) = under? others entries := by
  induction others generalizing keys entries with
  | nil => exact absurd List.nil_prefix h.1
  | cons other others ih =>
      cases keys with
      | nil => exact absurd List.nil_prefix h.2
      | cons key keys =>
          -- paths that begin alike part further down, and all others here
          by_cases hkey : other = key
          · subst hkey
            have hrest : Apart others keys :=
              ⟨fun hp => h.1 (List.cons_prefix_cons.2 ⟨rfl, hp⟩),
                fun hp => h.2 (List.cons_prefix_cons.2 ⟨rfl, hp⟩)⟩
            cases others with
            | nil => exact absurd List.nil_prefix hrest.1
            | cons other' others =>
                cases keys with
                | nil => exact absurd List.nil_prefix hrest.2
                | cons key' keys =>
                    rw [under?, under?, setPath_cons data other key' keys rfl, inside_insert]
                    exact ih hrest
          · obtain ⟨d, hd⟩ := exists_setPath_eq data key keys entries
            rw [hd]
            cases others with
            | nil => rw [under?, under?, field?_insert_str, if_neg hkey]
            | cons other' others => rw [under?, under?, inside_insert_of_ne hkey]

/-- At the top nothing changes but under the first key. -/
theorem find?_setPath {q : Value} (hq : ∀ key ∈ keys.head?, Value.equal q (.str key) = false) :
    Value.find? q (setPath data keys entries) = Value.find? q entries := by
  cases keys with
  | nil => rfl
  | cons key keys =>
      obtain ⟨d, hd⟩ := exists_setPath_eq data key keys entries
      rw [hd, Value.find?_insert (.str key), hq key rfl]
      rfl

/-- A lookup follows a path from dictionary to dictionary. -/
theorem follow_of_under? (h : under? keys entries = some d) :
    (Value.dict (entryValues entries)).follow keys = .ok d.value := by
  induction keys generalizing entries with
  | nil => cases h
  | cons key keys ih =>
      have hstep : (Value.dict (entryValues entries)).follow (key :: keys) =
          (((Value.field? key entries).map Loaded.value).getD .none).follow keys := by
        rw [← show Value.field? key (entryValues entries) =
          (Value.field? key entries).map Loaded.value from find?_entryValues (.str key) entries]
        rfl
      rw [hstep]
      -- the last key leads to what stands under it, any other to a dictionary to go on in
      cases keys with
      | nil =>
          rw [under?] at h
          rw [h]
          rfl
      | cons key' keys =>
          rw [under?, inside] at h
          cases hd : (Value.field? key entries).bind dict? with
          | none =>
              rw [hd] at h
              exact absurd ((under?_nil _).symm.trans h) nofun
          | some found =>
              obtain ⟨mark, inner⟩ := found
              rw [hd] at h
              obtain ⟨e, he, hdict⟩ := Option.bind_eq_some_iff.1 hd
              rw [he, Option.map_some, Option.getD_some, value_of_dict? hdict]
              exact ih h

/-! ## Trees -/

theorem count_setPath_le (m : Nat) :
    (entryMarks (setPath data keys entries)).count m ≤
      data.marks.count m + (entryMarks entries).count m := by
  induction keys generalizing entries with
  | nil => exact Nat.le_add_left _ _
  | cons key keys ih =>
      cases keys with
      | nil =>
          have hcount := count_insert (.str key) data entries m
          rw [setPath]
          omega
      | cons key' keys =>
          rcases hinside : inside key entries with ⟨mark, inner⟩
          rw [setPath_cons data key key' keys hinside]
          have hset : (entryMarks (setPath data (key' :: keys) inner)).count m ≤
              data.marks.count m + (entryMarks inner).count m := ih
          have hcount := count_insert (.str key) (.dict mark (setPath data (key' :: keys) inner))
            entries m
          -- the dictionary on the way is the one that stood there, or a new one without marks
          obtain hfield | ⟨rfl, hinner⟩ := field?_or_of_inside hinside
          · rw [Value.field?] at hfield
            rw [heldMarks, hfield] at hcount
            simp only [Option.map_some, Option.getD_some, marks, List.count_append] at hcount
            omega
          · simp only [marks, Option.toList_none, List.nil_append] at hcount
            simp only [hinner, List.count_nil] at hset
            omega

theorem mem_of_nearest? {m : Nat} {rest : List String}
    (h : nearest? keys entries = some (m, rest)) : m ∈ entryMarks entries := by
  induction keys generalizing entries with
  | nil => cases h
  | cons key keys ih =>
      cases keys with
      | nil => cases h
      | cons key' keys =>
          rcases hinside : inside key entries with ⟨mark, inner⟩
          rw [nearest?, hinside] at h
          -- the mark is of the dictionary under the first key, or of one inside of it
          have hmem : m ∈ mark.toList ++ entryMarks inner := by
            obtain h | ⟨-, h⟩ := Option.or_eq_some_iff.1 h
            · exact List.mem_append_right _ (ih h)
            · obtain ⟨m', rfl, heq⟩ := Option.map_eq_some_iff.1 h
              cases heq
              exact List.mem_append_left _ (List.mem_singleton_self m)
          have hpos := List.count_pos_iff.2 hmem
          rw [List.count_append] at hpos
          have hle := count_inside m hinside
          exact List.count_pos_iff.1 (by omega)

/-- What is changed in a dictionary with a mark is changed under its key, in a tree. -/
theorem remakeEntries_of_inside {m : Nat} {f : List (Value × Loaded) → List (Value × Loaded)}
    (hentries : (entryMarks entries).Nodup) (hinside : inside key entries = (mark, inner))
    (hm : m ∈ mark.toList ++ entryMarks inner) :
    remakeEntries (changeAt m f) entries = Value.insert (.str key)
      (changeAt m f mark (remakeEntries (changeAt m f) inner)) entries := by
  -- In a tree a mark stands once: inside of the dictionary under the key, hence nowhere else.
  have hone := List.nodup_iff_count_le_one.1 hentries m
  have hle := count_inside m hinside
  have hpos := List.count_pos_iff.2 hm
  rw [List.count_append] at hpos
  obtain hfield | ⟨rfl, hinner⟩ := field?_or_of_inside hinside
  · refine (remakeEntries_eq_insert hfield ?_).trans (by rw [remake])
    rw [marks, List.count_append]
    omega
  · rw [hinner] at hm
    cases hm

/-- In a tree the nearest dictionary with a mark stands on the path only, and what is set from there
on is set under the whole path. -/
theorem remakeEntries_nearest {m : Nat} {rest : List String}
    (hentries : (entryMarks entries).Nodup) (h : nearest? keys entries = some (m, rest)) :
    remakeEntries (changeAt m (setPath data rest)) entries = setPath data keys entries := by
  induction keys generalizing entries with
  | nil => cases h
  | cons key keys ih =>
      cases keys with
      | nil => cases h
      | cons key' keys =>
          rcases hinside : inside key entries with ⟨mark, inner⟩
          rw [nearest?, hinside] at h
          have hone := List.nodup_iff_count_le_one.1 hentries m
          have hle := count_inside m hinside
          rw [setPath_cons data key key' keys hinside]
          obtain h | ⟨-, h⟩ := Option.or_eq_some_iff.1 h
          · -- the mark is further inside
            have hmem := mem_of_nearest? h
            have hpos := List.count_pos_iff.2 hmem
            have hne : mark ≠ some m := by
              rintro rfl
              simp only [Option.toList_some, List.count_singleton_self] at hle
              omega
            rw [remakeEntries_of_inside hentries hinside (List.mem_append_right _ hmem), changeAt,
              if_neg hne, ih (nodup_inside hinside hentries) h]
          · obtain ⟨m', rfl, heq⟩ := Option.map_eq_some_iff.1 h
            cases heq
            simp only [Option.toList_some, List.count_singleton_self] at hle
            have hnot : m ∉ entryMarks inner := by
              rw [← List.count_eq_zero]
              omega
            rw [remakeEntries_of_inside hentries hinside
              (List.mem_append_left _ (List.mem_singleton_self m)), changeAt, if_pos rfl,
              remakeEntries_changeAt inner hnot]

/-- In a tree an assignment sets data under its path only. -/
theorem assign_eq_setPath (hentries : (entryMarks entries).Nodup) :
    assign data keys entries = setPath data keys entries := by
  rw [assign]
  split
  · exact remakeEntries_nearest hentries ‹_›
  · rfl

/-! ## Assignments in turn -/

/-- Marks that are none of those in a tree keep it a tree. -/
theorem nodup_of_count_le {l l₁ l₂ : List Nat} (h : ∀ m, l.count m ≤ l₁.count m + l₂.count m)
    (h₁ : l₁.Nodup) (h₂ : l₂.Nodup) (hdisjoint : ∀ m ∈ l₁, m ∉ l₂) : l.Nodup := by
  rw [List.nodup_iff_count_le_one] at h₁ h₂ ⊢
  intro m
  have hle := h m
  have hone₁ := h₁ m
  have hone₂ := h₂ m
  by_cases hm : m ∈ l₁
  · have hzero := List.count_eq_zero.2 (hdisjoint m hm)
    omega
  · have hzero := List.count_eq_zero.2 hm
    omega

theorem nodup_moveMarks {l : List Nat} (h : l.Nodup) (n : Nat) : (l.map (n + ·)).Nodup :=
  h.map fun _ _ => Nat.add_left_cancel

/-- Marks that are moved behind all those in entries are none of them. -/
theorem notMem_of_moved {l : List Nat} {m : Nat} (hm : m ∈ l.map (freshMark entries + ·)) :
    m ∉ entryMarks entries := by
  obtain ⟨k, -, rfl⟩ := List.mem_map.1 hm
  exact fun h => Nat.not_lt.2 (Nat.le_add_right _ k) (lt_freshMark h)

/-- Data that are set have marks of their own. -/
def fresh (a : Assignment) (entries : List (Value × Loaded)) : Loaded :=
  a.data.remake (moveMark (freshMark entries))

variable {a : Assignment} {as : List Assignment}

theorem apply_eq_setPath (hentries : (entryMarks entries).Nodup) :
    apply entries a = setPath (a.fresh entries) a.path entries :=
  assign_eq_setPath hentries

theorem nodup_apply (hentries : (entryMarks entries).Nodup) (ha : a.data.marks.Nodup) :
    (entryMarks (apply entries a)).Nodup := by
  rw [apply_eq_setPath hentries]
  refine nodup_of_count_le count_setPath_le ?_ hentries fun m hm => ?_
  · rw [fresh, marks_moveMark]
    exact nodup_moveMarks ha _
  · rw [fresh, marks_moveMark] at hm
    exact notMem_of_moved hm

theorem nodup_foldl_apply (hentries : (entryMarks entries).Nodup)
    (has : ∀ a ∈ as, a.data.marks.Nodup) : (entryMarks (as.foldl apply entries)).Nodup := by
  induction as generalizing entries with
  | nil => exact hentries
  | cons a as ih =>
      obtain ⟨ha, has⟩ := List.forall_mem_cons.1 has
      exact ih (nodup_apply hentries ha) has

/-- Assignments leave alone what is under other paths. -/
theorem under?_foldl_apply (hentries : (entryMarks entries).Nodup)
    (has : ∀ a ∈ as, a.data.marks.Nodup) (hapart : ∀ a ∈ as, Apart keys a.path) :
    under? keys (as.foldl apply entries) = under? keys entries := by
  induction as generalizing entries with
  | nil => rfl
  | cons a as ih =>
      obtain ⟨ha, has⟩ := List.forall_mem_cons.1 has
      obtain ⟨hfirst, hrest⟩ := List.forall_mem_cons.1 hapart
      rw [List.foldl_cons, ih (nodup_apply hentries ha) has hrest, apply_eq_setPath hentries,
        under?_setPath_of_apart hfirst]

/-- Assignments leave alone what is at the top under other keys than the first ones of paths. -/
theorem find?_foldl_apply {q : Value} (hentries : (entryMarks entries).Nodup)
    (has : ∀ a ∈ as, a.data.marks.Nodup)
    (hq : ∀ a ∈ as, ∀ key ∈ a.path.head?, Value.equal q (.str key) = false) :
    Value.find? q (as.foldl apply entries) = Value.find? q entries := by
  induction as generalizing entries with
  | nil => rfl
  | cons a as ih =>
      obtain ⟨ha, has⟩ := List.forall_mem_cons.1 has
      obtain ⟨hfirst, hrest⟩ := List.forall_mem_cons.1 hq
      rw [List.foldl_cons, ih (nodup_apply hentries ha) has hrest, apply_eq_setPath hentries,
        find?_setPath hfirst]

theorem path_ne_nil (a : Assignment) : a.path ≠ [] := by
  rw [path, Ne, List.map_eq_nil_iff]
  exact Text.splitOn_ne_nil _ _ _

/-- What is assigned is found, when no later path meets its own. -/
theorem follow_foldl_apply (hentries : (entryMarks entries).Nodup)
    {front back : List Assignment} (has : ∀ b ∈ front ++ a :: back, b.data.marks.Nodup)
    (hapart : ∀ b ∈ back, Apart a.path b.path) :
    (Value.dict (entryValues ((front ++ a :: back).foldl apply entries))).follow a.path =
      .ok a.value := by
  obtain ⟨hfront, hrest⟩ := List.forall_mem_append.1 has
  obtain ⟨ha, hback⟩ := List.forall_mem_cons.1 hrest
  have hbefore := nodup_foldl_apply hentries hfront
  -- Right behind the assignment its path leads to the value; later ones stay apart from the path.
  have hset : under? a.path (apply (front.foldl apply entries) a) =
      some (a.fresh (front.foldl apply entries)) := by
    rw [apply_eq_setPath hbefore]
    exact under?_setPath a.path_ne_nil
  rw [List.foldl_append, List.foldl_cons]
  have hend := under?_foldl_apply (nodup_apply hbefore ha) hback hapart
  rw [follow_of_under? (hend.trans hset), fresh, value_moveMark]
  rfl

theorem key_ne_empty {text : String} (h : parse text = .ok a) : a.key.isEmpty = false := by
  rw [parse] at h
  split at h
  · dsimp only at h
    split at h
    · cases h
    · next hkey =>
        obtain ⟨d, -, rfl⟩ := Except.map_eq_ok_iff.1 h
        simpa using hkey
  · cases h

end Assignment

open Assignment

/-- Data of a file laid over defaults. -/
theorem nodup_mergeData {defaults data : List (Value × Loaded)}
    (hdefaults : (entryMarks defaults).Nodup) (hdata : (entryMarks data).Nodup) :
    (entryMarks (mergeData defaults data)).Nodup := by
  have hcount (others entries : List (Value × Loaded)) (m : Nat) :
      (entryMarks (others.foldl (fun es e => Value.insert e.1 e.2 es) entries)).count m ≤
        (entryMarks others).count m + (entryMarks entries).count m := by
    induction others generalizing entries with
    | nil => exact Nat.le_add_left _ _
    | cons other others ih =>
        obtain ⟨k, d⟩ := other
        have hinsert := count_insert k d entries m
        rw [entryMarks, List.count_append]
        refine (ih (Value.insert k d entries)).trans ?_
        omega
  -- the copied data have marks of their own, which are apart from those of the defaults
  rw [mergeData]
  refine nodup_of_count_le (hcount _ _) ?_ hdefaults fun m hm => ?_
  · rw [entryMarks_moveMark]
    exact nodup_moveMarks hdata _
  · rw [entryMarks_moveMark] at hm
    exact notMem_of_moved hm

theorem buildData_of_forall₂ {defaults data : List (Value × Loaded)} {texts : List String}
    {as : List Assignment}
    (h : List.Forall₂ (fun text a => Assignment.parse text = .ok a) texts as) :
    buildData defaults data texts = .ok (as.foldl Assignment.apply (mergeData defaults data)) := by
  rw [buildData]
  generalize mergeData defaults data = entries
  induction h generalizing entries with
  | nil => rfl
  | cons ha _ ih =>
      rw [List.foldlM_cons, ha]
      exact ih _

theorem find?_mergeData {q : Value} {defaults data : List (Value × Loaded)}
    (hdata : Value.AreDistinct (data.map Prod.fst)) :
    Value.find? q (entryValues (mergeData defaults data)) =
      (Value.find? q (entryValues data)).or (Value.find? q (entryValues defaults)) := by
  have hkeys : (remakeEntries (moveMark (freshMark defaults)) data).map Prod.fst =
      data.map Prod.fst := by
    clear hdata
    generalize freshMark defaults = n
    induction data with
    | nil => rfl
    | cons entry data ih => rw [remakeEntries, List.map_cons, List.map_cons, ih]
  rw [find?_entryValues, mergeData, Value.find?_foldl_insert (hkeys ▸ hdata), Option.map_or,
    ← find?_entryValues, entryValues_moveMark, ← find?_entryValues]

end Curly
