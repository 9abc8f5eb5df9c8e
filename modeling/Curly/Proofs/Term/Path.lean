import Curly.Proofs.Expr.Dotted
import Curly.Proofs.Term.Overrun
import Curly.Proofs.Term.Shorthand
import Curly.Proofs.Text.Search
import Mathlib.Data.List.Infix

/-!
Paths as accesses. A path is looked up, whatever its segments are called, unless one of them behind
a dot is a known method: then the path is read as a free-form expression, in which a reserved word
or a dollar sign is an error.
-/

namespace Curly

open Text (dotted afterDots)
open Form

variable {v w : List Char} {ws : List (List Char)}

/-! ## The pieces of a path -/

theorem Text.dotted_cons (w v : List Char) (ws : List (List Char)) :
    dotted w (v :: ws) = w ++ ['.'] ++ dotted v ws := by
  rw [dotted, afterDots, List.flatMap_cons, List.append_assoc, dotted, afterDots]
  rfl

theorem Form.not_mem_of_isSegment (hv : isSegment v = true) : '.' ∉ v := by
  cases v with
  | nil => exact nofun
  | cons c v =>
      rw [isSegment, Bool.and_eq_true, List.all_eq_true] at hv
      obtain ⟨hfirst, hrest⟩ := hv
      rintro (_ | ⟨_, hmem⟩)
      · cases hfirst
      · exact absurd (hrest '.' hmem) (by decide)

theorem Form.isFirstAfter_of_isSegment (hv : isSegment v = true) : Text.IsFirstAfter ['.'] v := by
  rw [Text.IsFirstAfter, List.dropLast_singleton, List.append_nil, List.singleton_infix_iff]
  exact not_mem_of_isSegment hv

theorem Text.splitOn_dotted (hw : isSegment w = true) (hws : ∀ v ∈ ws, isSegment v = true)
    {limit : Nat} (hlimit : ws.length ≤ limit) : splitOn ['.'] limit (dotted w ws) = w :: ws := by
  -- the limit on the number of cuts goes down with the segments, so both are general
  induction ws generalizing w limit with
  | nil =>
      have hcut : cut ['.'] (dotted w []) = none := by
        rw [cut_eq_none_iff, dotted, afterDots, List.flatMap_nil, List.append_nil,
          List.singleton_infix_iff]
        exact not_mem_of_isSegment hw
      cases limit with
      | zero => simp [splitOn, dotted, afterDots]
      | succ limit =>
          rw [splitOn, hcut]
          simp [dotted, afterDots]
  | cons v ws ih =>
      obtain ⟨hv, hws⟩ := List.forall_mem_cons.1 hws
      cases limit with
      | zero => simp at hlimit
      | succ limit =>
          rw [splitOn, dotted_cons, cut_append (isFirstAfter_of_isSegment hw)]
          dsimp only
          rw [ih hv hws (Nat.le_of_succ_le_succ hlimit)]

theorem Text.length_le_dotted (w : List Char) (ws : List (List Char)) :
    ws.length ≤ (dotted w ws).length := by
  induction ws generalizing w with
  | nil => exact Nat.zero_le _
  | cons v ws ih =>
      have hle := ih v
      rw [dotted_cons, List.length_append, List.length_append, List.length_cons]
      simp only [List.length_singleton]
      omega

/-- Segments with dots between them are a path. -/
theorem Form.isPath_dotted (hw : isSegment w = true) (hws : ∀ v ∈ ws, isSegment v = true) :
    isPath (dotted w ws) = true := by
  have hline : '\n' ∉ dotted w ws := Lexeme.not_mem_dotted hw hws (by decide)
  have hlast : (dotted w ws).getLast? ≠ some '\n' := fun h => hline (List.mem_of_getLast? h)
  rw [isPath, dropFinalNewline, if_neg hlast, Text.splitAll,
    Text.splitOn_dotted hw hws (Text.length_le_dotted w ws), List.all_eq_true]
  exact List.forall_mem_cons.2 ⟨hw, hws⟩

/-! ## Known methods -/

/-- Whether a segment begins with a known method as a word. -/
def Form.namesMethod (v : List Char) : Bool := methods.any fun m => startsWithWord m.toList v

/-- No sign of a free-form expression begins in a segment. -/
theorem Form.isComplex_append (hv : ∀ c ∈ v, Lexeme.isDottedChar c = true) (hdot : '.' ∉ v)
    (rest : List Char) : isComplex (v ++ rest) = isComplex rest := by
  induction v with
  | nil => rfl
  | cons c v ih =>
      obtain ⟨hc, hv⟩ := List.forall_mem_cons.1 hv
      rw [List.mem_cons, not_or] at hdot
      have hstarts : startsComplex (c :: (v ++ rest)) = false := by
        -- none of the signs is a character of a segment
        have hne (d : Char) (hd : Lexeme.isDottedChar d = false) : c ≠ d := by
          rintro rfl
          rw [hc] at hd
          cases hd
        have hcontains : "()+-*/".toList.contains c = false := by
          simp [hne '(' (by decide), hne ')' (by decide), hne '+' (by decide), hne '-' (by decide),
            hne '*' (by decide), hne '/' (by decide)]
        have hindex : "@index".toList.isPrefixOf (c :: (v ++ rest)) = false := by
          have hat : ('@' == c) = false := beq_false_of_ne (hne '@' (by decide)).symm
          simp [List.isPrefixOf, hat]
        unfold startsComplex
        split
        · rename_i heq
          exact absurd (List.cons.inj heq).1 (hne '=' (by decide))
        · rename_i heq
          exact absurd (List.cons.inj heq).1.symm hdot.1
        · rename_i heq
          obtain ⟨rfl, rfl⟩ := List.cons.inj heq
          rw [hcontains, hindex]
          rfl
        · rfl
      rw [List.cons_append, isComplex, hstarts, ih hv hdot.2]
      rfl

/-- A path is read as a free-form expression for a known method behind a dot. -/
theorem Form.isComplex_dotted (hw : isSegment w = true) (hws : ∀ v ∈ ws, isSegment v = true) :
    isComplex (dotted w ws) = ws.any namesMethod := by
  -- only the dots are left to look at, each with the segment behind it
  have hskip (v : List Char) (hv : isSegment v = true) (rest : List Char) :=
    isComplex_append (Lexeme.isDottedChar_of_isSegment hv) (not_mem_of_isSegment hv) rest
  rw [dotted, hskip w hw]
  clear hw
  induction ws with
  | nil => rfl
  | cons v ws ih =>
      obtain ⟨hv, hws⟩ := List.forall_mem_cons.1 hws
      have hsplit : afterDots (v :: ws) = '.' :: (v ++ afterDots ws) := rfl
      have hstarts : startsComplex ('.' :: (v ++ afterDots ws)) = namesMethod v := by
        have hplain : ∀ m ∈ methods, '.' ∉ m.toList := by decide
        show (methods.any fun m => startsWithWord m.toList (v ++ afterDots ws)) = _
        have hne : v ≠ [] := by
          rintro rfl
          cases hv
        rw [namesMethod, Bool.eq_iff_iff, List.any_eq_true, List.any_eq_true]
        refine exists_congr fun m => and_congr_right fun hm => ?_
        rw [Shorthand.startsWithWord_append hne]
        intro c hc
        obtain rfl := Lexeme.head?_afterDots ws c hc
        exact ⟨by decide, fun hmem => hplain m hm (List.mem_of_mem_tail hmem)⟩
      rw [hsplit, isComplex, hstarts, hskip v hv, ih hws, List.any_cons]

/-! ## Reading paths -/

namespace Term

open Text Shorthand

variable {scope : Scope}

/-- The reserved words that write a value. -/
def constants : List (List Char) := ["True", "False", "None"].map String.toList

/-- Segments that write a chain of attributes: no dollar sign is in them, and none is a reserved
word unless it is a constant in front. -/
def IsChain (w : List Char) (ws : List (List Char)) : Prop :=
  (∀ v ∈ w :: ws, '$' ∉ v) ∧ (Parse.isReserved w = true → w ∈ constants) ∧
    ∀ v ∈ ws, Parse.isReserved v = false

/-- What a path is looked up as. -/
def ofPath (scope : Scope) (w : List Char) (ws : List (List Char)) : Term :=
  if w = "this".toList then
    match ws with
    | [] => .this (thisName scope)
    | v :: ws => .path (thisName scope) (String.ofList (dotted v ws))
  else .path contextName (String.ofList (dotted w ws))

theorem isSpace_of_isDottedChar {c : Char} (hc : Lexeme.isDottedChar c = true) :
    isSpace c = false := by
  -- All characters of paths are in ASCII, which is small enough to be looked through.
  have hascii : ∀ n < 128, Lexeme.isDottedChar (Char.ofNat n) = true →
      isSpace (Char.ofNat n) = false := by
    decide
  have hlt : c.toNat < 128 := by
    rw [Lexeme.isDottedChar, Bool.or_eq_true, Bool.or_eq_true, Bool.or_eq_true, beq_iff_eq,
      beq_iff_eq, beq_iff_eq] at hc
    obtain ((hletter | rfl) | rfl) | rfl := hc
    · exact toNat_lt_of_isAlphanum hletter
    · decide
    · decide
    · decide
  have h := hascii c.toNat hlt
  rw [Char.ofNat_toNat] at h
  exact h hc

theorem strip_dotted (hw : isSegment w = true) (hws : ∀ v ∈ ws, isSegment v = true) :
    strip (dotted w ws) = dotted w ws := by
  have hspace : ∀ c ∈ dotted w ws, isSpace c = false :=
    fun c hc => isSpace_of_isDottedChar (Lexeme.isDottedChar_of_mem hw hws c hc)
  exact strip_eq_self_iff.2 ⟨fun c hc => hspace c (List.mem_of_head? hc),
    fun c hc => hspace c (List.mem_of_getLast? hc)⟩

/-- A path holds no shorthand. -/
theorem codeOf_dotted (hw : isSegment w = true) (hws : ∀ v ∈ ws, isSegment v = true) :
    codeOf scope (dotted w ws) = dotted w ws := by
  have hindex : ¬"@index".toList <:+: dotted w ws := fun h =>
    Lexeme.not_mem_dotted hw hws (c := '@') (by decide) (h.subset (by decide))
  have harrow := Lexeme.not_mem_dotted hw hws (c := '=') (by decide)
  rw [codeOf, replaceIndex_eq_self hindex, replaceArrows_eq_self harrow, strip_dotted hw hws]

theorem hasLongInteger_of_not_mem {s : List Char} {ls : List Lexeme}
    (hs : Lexeme.ofText s = some ls) (hnumber : ∀ n, Lexeme.number (.int n) ∉ ls) :
    hasLongInteger s = false := by
  rw [← Bool.not_eq_true, hasLongInteger_iff]
  rintro ⟨ls', n, hls, hmem, -⟩
  cases hs.symm.trans hls
  exact hnumber n hmem

/-- No word is a number. -/
theorem number_not_mem_dotted (w : List Char) (ws : List (List Char)) (l : Literal) :
    Lexeme.number l ∉ Lexeme.ofWord w :: Lexeme.ofDots ws := by
  have hword (v : List Char) : Lexeme.number l ≠ Lexeme.ofWord v := by
    cases hv : Parse.isReserved v with
    | true => simp [Parse.ofWord_of_isReserved hv]
    | false => simp [Parse.ofWord_of_not hv]
  intro hmem
  obtain heq | hmem := List.mem_cons.1 hmem
  · exact hword w heq
  · obtain ⟨v, -, hmem⟩ := List.mem_flatMap.1 hmem
    simp [hword v] at hmem

/-- A path holds no number. -/
theorem hasLongInteger_dotted (hw : isSegment w = true) (hws : ∀ v ∈ ws, isSegment v = true)
    (hdollar : ∀ v ∈ w :: ws, '$' ∉ v) : hasLongInteger (dotted w ws) = false :=
  hasLongInteger_of_not_mem (Lexeme.ofText_dotted hw hws hdollar)
    fun n => number_not_mem_dotted w ws (.int n)

/-- A path that is read as a free-form expression writes a chain of attributes, or nothing. -/
theorem readComplex_dotted (hw : isSegment w = true) (hws : ∀ v ∈ ws, isSegment v = true) :
    readComplex scope (dotted w ws) =
      match if ∀ v ∈ w :: ws, '$' ∉ v then Parse.dotted? w ws else none with
      | some e => .ok (.complex (String.ofList (dotted w ws))
          (e.redirect (thisName scope) scope.boundNames))
      | none => .error ⟨.invalidComplex (String.ofList (dotted w ws)),
          some (String.ofList (dotted w ws))⟩ := by
  have hcode : codeOf scope (dotted w ws) = dotted w ws := codeOf_dotted hw hws
  rw [codeOf] at hcode
  rw [readComplex, hcode]
  by_cases hdollar : ∀ v ∈ w :: ws, '$' ∉ v
  · rw [if_pos hdollar, Expr.ofText?_dotted hw hws hdollar, hasLongInteger_dotted hw hws hdollar]
    cases Parse.dotted? w ws <;> rfl
  · have hsome : ∃ v ∈ w :: ws, '$' ∈ v := by
      by_contra hnone
      exact hdollar fun v hv hmem => hnone ⟨v, hv, hmem⟩
    rw [if_neg hdollar, Expr.ofText?_dotted_dollar hw hws hsome]

theorem dotted_ne_nil (hw : isSegment w = true) : dotted w ws ≠ [] := by
  cases w with
  | nil => cases hw
  | cons c w => exact List.cons_ne_nil _ _

/-- What stands in front of the first dot is the first segment. -/
theorem eq_of_dotted_cons (hw : isSegment w = true) {rest : List Char} (hv : isSegment v = true)
    (h : dotted w ws = v ++ ['.'] ++ rest) :
    w = v ∧ ∃ u us, ws = u :: us ∧ rest = dotted u us := by
  -- Both sides are cut at their first dot.
  have hcut : cut ['.'] (dotted w ws) = some (v, rest) := by
    rw [h]
    exact cut_append (isFirstAfter_of_isSegment hv) rest
  cases ws with
  | nil =>
      have hnone : cut ['.'] (dotted w []) = none := by
        rw [cut_eq_none_iff, dotted, afterDots, List.flatMap_nil, List.append_nil,
          List.singleton_infix_iff]
        exact not_mem_of_isSegment hw
      rw [hnone] at hcut
      cases hcut
  | cons u us =>
      rw [dotted_cons, cut_append (isFirstAfter_of_isSegment hw)] at hcut
      cases hcut
      exact ⟨rfl, u, us, rfl, rfl⟩

/-- A path is looked up, unless it names a known method. -/
theorem readAccess_dotted_eq (hw : isSegment w = true) (hws : ∀ v ∈ ws, isSegment v = true) :
    readAccess scope (dotted w ws) =
      if ws.any namesMethod then readComplex scope (dotted w ws)
      else .ok (ofPath scope w ws) := by
  have hthis : isSegment "this".toList = true := by decide
  rw [readAccess, strip_dotted hw hws]
  dsimp only
  rw [if_neg (by simpa using dotted_ne_nil hw), isComplex_dotted hw hws, isPath_dotted hw hws,
    if_pos rfl]
  by_cases hword : dotted w ws = "this".toList
  · -- a path without dots names no method
    obtain rfl : ws = [] := by
      cases ws with
      | nil => rfl
      | cons v ws =>
          have hmem : '.' ∈ dotted w (v :: ws) := by
            rw [dotted_cons]
            simp
          rw [hword] at hmem
          exact absurd hmem (by decide)
    rw [dotted, afterDots, List.flatMap_nil, List.append_nil] at hword
    subst hword
    rfl
  · rw [if_neg hword]
    cases hmethod : ws.any namesMethod with
    | true => rw [if_pos rfl, if_pos rfl]
    | false =>
        rw [if_neg Bool.false_ne_true, if_neg Bool.false_ne_true, ofPath.eq_def]
        by_cases hof : "this.".toList.isPrefixOf (dotted w ws)
        · obtain ⟨rest, hrest⟩ := List.isPrefixOf_iff_prefix.1 hof
          have hsplit : dotted w ws = "this".toList ++ ['.'] ++ rest := hrest.symm
          obtain ⟨rfl, u, us, rfl, rfl⟩ := eq_of_dotted_cons hw hthis hsplit
          obtain ⟨hu, hus⟩ := List.forall_mem_cons.1 hws
          have hdrop : (dotted "this".toList (u :: us)).drop 5 = dotted u us := by
            rw [hsplit]
            rfl
          rw [if_pos hof, hdrop, if_pos (isPath_dotted hu hus), if_pos rfl]
        · rw [if_neg hof, if_neg]
          rintro rfl
          cases ws with
          | nil => exact hword (List.append_nil _)
          | cons u us =>
              rw [dotted_cons] at hof
              exact hof (List.isPrefixOf_iff_prefix.2 (List.prefix_append _ _))

/-- As a condition, a path is what it is as an access. -/
theorem readCondition_dotted_eq (hw : isSegment w = true) (hws : ∀ v ∈ ws, isSegment v = true) :
    readCondition scope (dotted w ws) = .truthy <$> readAccess scope (dotted w ws) := by
  have hcomparison : comparison? (dotted w ws) = none := by
    have hparen := Lexeme.not_mem_dotted hw hws (c := '(') (by decide)
    unfold comparison?
    split
    · rename_i rest heq
      exact absurd (heq ▸ List.mem_cons_self) hparen
    · rfl
  rw [readCondition, strip_dotted hw hws]
  simp only [hcomparison]
  rw [isPath_dotted hw hws]
  simp

/-- A segment that is a known method names it. -/
theorem namesMethod_of_mem (h : String.ofList v ∈ methods) : namesMethod v = true := by
  refine List.any_eq_true.2 ⟨_, h, ?_⟩
  rw [String.toList_ofList, startsWithWord, Bool.and_eq_true, List.isPrefixOf_iff_prefix,
    List.drop_length]
  exact ⟨List.prefix_rfl, rfl⟩

theorem isSome_ofWord?_iff :
    (Parse.ofWord? w).isSome ↔ (Parse.isReserved w = true → w ∈ constants) := by
  have hmem : w ∈ constants ↔ w = "True".toList ∨ w = "False".toList ∨ w = "None".toList := by
    simp [constants]
  rw [Parse.ofWord?, hmem]
  split_ifs with htrue hfalse hnone hreserved
  · exact iff_of_true rfl fun _ => .inl htrue
  · exact iff_of_true rfl fun _ => .inr (.inl hfalse)
  · exact iff_of_true rfl fun _ => .inr (.inr hnone)
  · refine iff_of_false Bool.false_ne_true fun h => ?_
    obtain h | h | h := h hreserved
    · exact htrue h
    · exact hfalse h
    · exact hnone h
  · exact iff_of_true rfl fun h => absurd h hreserved

theorem isSome_dotted?_iff :
    (if ∀ v ∈ w :: ws, '$' ∉ v then Parse.dotted? w ws else none).isSome ↔ IsChain w ws := by
  by_cases hdollar : ∀ v ∈ w :: ws, '$' ∉ v
  · have hmembers (e : Expr) :
        (Parse.attributes? e ws).isSome ↔ ∀ v ∈ ws, Parse.isReserved v = false := by
      rw [Parse.attributes?]
      cases hany : ws.any Parse.isReserved with
      | true => simpa using hany
      | false => simpa using hany
    rw [if_pos hdollar, IsChain, and_iff_right hdollar, ← isSome_ofWord?_iff, Parse.dotted?]
    cases hword : Parse.ofWord? w with
    | none => simp
    | some e => simpa using hmembers e
  · rw [if_neg hdollar]
    exact iff_of_false Bool.false_ne_true fun h => hdollar h.1

/-- **Paths are accesses and conditions.** In every scope a path is read without an error if none of
its segments behind a dot begins with a known method as a word, whatever its segments are called;
and if it writes a chain of attributes. A path in which a known method stands behind a dot, and that
writes no such chain, is an error: it is read as a free-form expression and nothing else. -/
theorem readAccess_dotted (scope : Scope) (w : List Char) (ws : List (List Char))
    (hsegments : ∀ v ∈ w :: ws, isSegment v = true) :
    ((∀ v ∈ ws, namesMethod v = false) ∨ IsChain w ws →
      ∃ t, readAccess scope (dotted w ws) = .ok t ∧
        readCondition scope (dotted w ws) = .ok (.truthy t)) ∧
    ((∃ v ∈ ws, String.ofList v ∈ methods) → ¬IsChain w ws →
      ∀ read ∈ [readAccess, readCondition], read scope (dotted w ws) =
        .error ⟨.invalidComplex (String.ofList (dotted w ws)),
          some (String.ofList (dotted w ws))⟩) := by
  obtain ⟨hw, hws⟩ := List.forall_mem_cons.1 hsegments
  have hcondition :
      readCondition scope (dotted w ws) = .truthy <$> readAccess scope (dotted w ws) :=
    readCondition_dotted_eq hw hws
  have haccess : readAccess scope (dotted w ws) =
      if ws.any namesMethod then readComplex scope (dotted w ws) else .ok (ofPath scope w ws) :=
    readAccess_dotted_eq hw hws
  rw [readComplex_dotted hw hws] at haccess
  constructor
  · intro h
    have hok : ∃ t, readAccess scope (dotted w ws) = .ok t := by
      cases hmethod : ws.any namesMethod with
      | false =>
          rw [haccess, hmethod]
          exact ⟨_, rfl⟩
      | true =>
          -- with a known method behind a dot, the path is read only if it writes a chain
          have hchain : IsChain w ws := by
            refine h.resolve_left fun hnone => ?_
            obtain ⟨v, hv, hname⟩ := List.any_eq_true.1 hmethod
            rw [hnone v hv] at hname
            cases hname
          obtain ⟨e, he⟩ := Option.isSome_iff_exists.1 (isSome_dotted?_iff.2 hchain)
          rw [haccess, hmethod, he]
          exact ⟨_, rfl⟩
    obtain ⟨t, ht⟩ := hok
    rw [ht] at hcondition
    exact ⟨t, ht, hcondition⟩
  · rintro ⟨v, hv, hmethod⟩ hchain
    have hany : ws.any namesMethod = true := List.any_eq_true.2 ⟨v, hv, namesMethod_of_mem hmethod⟩
    have hnone := Option.not_isSome_iff_eq_none.1 (mt isSome_dotted?_iff.1 hchain)
    rw [hany, if_pos rfl, hnone] at haccess
    rw [haccess] at hcondition
    intro read hread
    simp only [List.mem_cons, List.not_mem_nil, or_false] at hread
    obtain rfl | rfl := hread
    · exact haccess
    · exact hcondition

/-- A reserved word does not keep a path from being read, unless a known method follows. -/
theorem readAccess_dotted_class :
    (∃ t, readAccess [] "class.for".toList = .ok t ∧
      readCondition [] "class.for".toList = .ok (.truthy t)) ∧
    (∃ t, readAccess [] "items.length".toList = .ok t ∧
      readCondition [] "items.length".toList = .ok (.truthy t)) ∧
    readAccess [] "class.length".toList =
      .error ⟨.invalidComplex "class.length", some "class.length"⟩ := by
  refine ⟨?_, ?_, ?_⟩
  · exact (readAccess_dotted [] "class".toList ["for".toList] (by decide)).1 (.inl (by decide))
  · refine (readAccess_dotted [] "items".toList ["length".toList] (by decide)).1 (.inr ?_)
    exact ⟨by decide, by decide, by decide⟩
  · refine (readAccess_dotted [] "class".toList ["length".toList] (by decide)).2
      ⟨_, List.mem_cons_self, by decide⟩ (fun h => ?_) readAccess List.mem_cons_self
    exact absurd (h.2.1 (by decide)) (by decide)

/-- Not every path is an access. -/
theorem not_readAccess_segments :
    ¬∀ (scope : Scope) (w : List Char) (ws : List (List Char)),
      (∀ v ∈ w :: ws, isSegment v = true) → ∃ t, readAccess scope (dotted w ws) = .ok t := by
  intro h
  obtain ⟨t, ht⟩ := h [] "class".toList ["length".toList] (by decide)
  have hnone : (readAccess [] "class.length".toList).toOption.isSome = false := by decide +kernel
  have hread : readAccess [] "class.length".toList = .ok t := ht
  rw [hread] at hnone
  cases hnone

end Term

end Curly
