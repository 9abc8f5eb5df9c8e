import Curly.Proofs.Token.Segment

/-!
Printing tokens: a text as it is, a marker with its value between blanks. The lexer undoes it. What
it makes of any template are kinds and values that can be printed so that they are read again, the
canonical ones, and of what is printed of canonical kinds and values it makes these.
-/

namespace Curly

open Text Lexer Segment

/-- What a token says, apart from its place: its kind and its value. -/
def Token.mark (t : Token) : TokenKind × String := (t.kind, t.value)

/-- A kind and a value, printed. -/
def printMark : TokenKind × String → List Char
  | (.text, value) => value.toList
  | (.variable, value) => opening ++ ' ' :: value.toList ++ ' ' :: closing
  | (.raw, value) => opening ++ '\x7b' :: ' ' :: value.toList ++ ' ' :: rawClosing
  | (.opener kind, value) => opening ++ kind.opening ++ ' ' :: value.toList ++ ' ' :: closing
  | (.closer kind, _) => opening ++ kind.closing ++ closing
  | (.other _, _) => []

/-- Kinds and values, printed one after the other. -/
def printMarks (ms : List (TokenKind × String)) : String := String.ofList (ms.flatMap printMark)

/-- A kind and a value that are read again when they are printed. -/
def IsCanonicalMark : TokenKind × String → Prop
  | (.text, value) => value ≠ "" ∧ ¬opening <:+: value.toList
  | (.variable, value) => strip value.toList = value.toList ∧ ¬closing <:+: value.toList ∧
      value.toList.head? ≠ some '/' ∧ ∀ kind, ¬IsDirective kind value.toList
  | (.raw, value) => strip value.toList = value.toList ∧ ¬rawClosing <:+: value.toList
  | (.opener _, value) =>
      value ≠ "" ∧ strip value.toList = value.toList ∧ ¬closing <:+: value.toList
  | (.closer _, value) => value = ""
  | (.other _, _) => False

/-- A text stands neither before a text nor, with a brace at its end, before a marker. -/
def MayPrecede (m m' : TokenKind × String) : Prop :=
  m.1 = .text → m'.1 ≠ .text ∧ m.2.toList.getLast? ≠ some '\x7b'

/-- Kinds and values that are read again when they are printed one after the other. -/
def AreCanonical (ms : List (TokenKind × String)) : Prop :=
  (∀ m ∈ ms, IsCanonicalMark m) ∧ ms.IsChain MayPrecede

/-! ## What is read is canonical -/

/-- What a segment says. -/
def Lexer.Segment.mark (l : Segment) : TokenKind × String := (l.kind, String.ofList l.value)

theorem map_mark_tokens (p : Place) (ls : List Segment) :
    (tokens p ls).map Token.mark = ls.map Segment.mark := by
  induction ls generalizing p with
  | nil => rfl
  | cons l ls ih => exact congrArg _ (ih _)

theorem mayPrecede_mark_iff {l l' : Segment} : MayPrecede l.mark l'.mark ↔ l.Precedes l' := by
  refine imp_congr_right fun hl => and_congr_right fun _ => ?_
  rw [mark, String.toList_ofList, value_of_text hl]

theorem isCanonicalMark_of_stands {content value : List Char} {kind : TokenKind}
    (h : Stands content kind value) (hstrip : strip content = content)
    (hclose : ¬closing <:+: content) : IsCanonicalMark (kind, String.ofList value) := by
  cases h with
  | @opener kind rest harg =>
      have hrest : rest <:+: kind.opening ++ ' ' :: rest :=
        ((List.suffix_cons _ _).trans (List.suffix_append _ _)).isInfix
      simp only [IsCanonicalMark, String.toList_ofList]
      have hvalue : strip rest <:+: kind.opening ++ ' ' :: rest := (strip_isInfix rest).trans hrest
      refine ⟨?_, strip_strip rest, fun hin => hclose (hin.trans hvalue)⟩
      exact fun h => harg (String.ofList_eq_empty_iff.1 h)
  | closer kind => rfl
  | «variable» hopen hslash =>
      simp only [IsCanonicalMark, String.toList_ofList]
      exact ⟨hstrip, hclose, hslash, hopen⟩

theorem isCanonicalMark_of_isSegment {text value : List Char} {kind : TokenKind}
    (h : IsSegment text kind value) : IsCanonicalMark (kind, String.ofList value) := by
  cases h with
  | text hne hopen =>
      simp only [IsCanonicalMark, String.toList_ofList]
      exact ⟨fun h => hne (String.ofList_eq_empty_iff.1 h), hopen⟩
  | raw h =>
      simp only [IsCanonicalMark, String.toList_ofList]
      exact ⟨strip_strip _, fun hin => h.not_isInfix (hin.trans (strip_isInfix _))⟩
  | marker h hstands =>
      exact isCanonicalMark_of_stands hstands (strip_strip _)
        fun hin => h.2.not_isInfix (hin.trans (strip_isInfix _))

/-! ## What is printed is read -/

theorem strip_between_blanks {s : List Char} (h : strip s = s) : strip (' ' :: s ++ [' ']) = s := by
  rw [strip_concat rfl, strip_cons rfl, h]

/-- A pattern without blanks occurs in front of a blank, behind it, or not at all. -/
theorem not_infix_between_blanks {pat s rest : List Char} (lead : List Char) (hpat : ' ' ∉ pat)
    (hlead : ¬pat <:+: lead) (h : ¬pat <:+: s) (hrest : ¬pat <:+: rest) :
    ¬pat <:+: lead ++ (' ' :: s ++ [' ']) ++ rest := by
  have hassoc : lead ++ (' ' :: s ++ [' ']) ++ rest = lead ++ ' ' :: (s ++ ' ' :: rest) := by simp
  rw [hassoc, infix_append_cons_iff hpat, infix_append_cons_iff hpat]
  exact not_or.2 ⟨hlead, not_or.2 ⟨h, hrest⟩⟩

/-- A value between blanks stands in a raw marker. -/
theorem isMarker_raw {s : List Char} (h : ¬rawClosing <:+: s) :
    IsMarker true (' ' :: s ++ [' ']) :=
  not_infix_between_blanks [] (by decide) (by decide) h (by decide)

/-- A value between blanks stands in a marker. -/
theorem isMarker_variable {s : List Char} (h : ¬closing <:+: s) :
    IsMarker false (' ' :: s ++ [' ']) :=
  ⟨by simp, not_infix_between_blanks [] (by decide) (by decide) h (by decide)⟩

/-- A value between blanks stands in a marker behind the keyword of a block. -/
theorem isMarker_opener (kind : BlockKind) {s : List Char} (h : ¬closing <:+: s) :
    IsMarker false (kind.opening ++ (' ' :: s ++ [' '])) := by
  have hkeyword : ¬closing <:+: kind.opening := by cases kind <;> decide
  exact ⟨by simp [BlockKind.opening],
    not_infix_between_blanks kind.opening (by decide) hkeyword h (by decide)⟩

theorem isMarker_closer (kind : BlockKind) : IsMarker false kind.closing := by
  refine ⟨by simp [BlockKind.closing], ?_⟩
  rw [IsFirstAfter]
  cases kind <;> decide

theorem strip_opener (kind : BlockKind) {s : List Char} (hne : s ≠ []) (h : strip s = s) :
    strip (kind.opening ++ (' ' :: s ++ [' '])) = kind.opening ++ ' ' :: s := by
  have hassoc : kind.opening ++ (' ' :: s ++ [' ']) = kind.opening ++ ' ' :: s ++ [' '] := by simp
  rw [hassoc, strip_concat rfl, strip_eq_self_iff]
  obtain ⟨c, hc⟩ := List.getLast?_isSome.2 hne |> Option.isSome_iff_exists.1
  refine ⟨fun d hd => ?_, fun d hd => (strip_eq_self_iff.1 h).2 d ?_⟩
  · cases hd
    rfl
  · simpa [List.getLast?_append, List.getLast?_cons, hc] using hd

theorem strip_closer (kind : BlockKind) : strip kind.closing = kind.closing := by
  cases kind <;> decide

/-- A canonical kind and value are printed as a segment. -/
theorem isSegment_printMark {kind : TokenKind} {value : String}
    (h : IsCanonicalMark (kind, value)) :
    IsSegment (printMark (kind, value)) kind value.toList := by
  cases kind with
  | text => exact .text (fun hv => h.1 (String.toList_eq_nil_iff.1 hv)) h.2
  | «variable» =>
      obtain ⟨hstrip, hclose, hslash, hopen⟩ := h
      have hprint : printMark (.variable, value) =
          markerText false (' ' :: value.toList ++ [' ']) := by simp [printMark, markerText]
      rw [hprint]
      refine .marker (isMarker_variable hclose) ?_
      rw [strip_between_blanks hstrip]
      exact .variable hopen hslash
  | raw =>
      obtain ⟨hstrip, hclose⟩ := h
      have hprint : printMark (.raw, value) = markerText true (' ' :: value.toList ++ [' ']) := by
        simp [printMark, markerText]
      have hraw := IsSegment.raw (isMarker_raw hclose)
      rwa [strip_between_blanks hstrip, ← hprint] at hraw
  | opener kind =>
      obtain ⟨hne, hstrip, hclose⟩ := h
      have hvalue : value.toList ≠ [] := fun hv => hne (String.toList_eq_nil_iff.1 hv)
      have hprint : printMark (.opener kind, value) =
          markerText false (kind.opening ++ (' ' :: value.toList ++ [' '])) := by
        simp [printMark, markerText]
      rw [hprint]
      refine .marker (isMarker_opener kind hclose) ?_
      rw [strip_opener kind hvalue hstrip]
      -- the blank around the value is trimmed with the rest of the content
      have hstands : Stands _ _ (strip value.toList) := .opener kind (by rwa [hstrip])
      rwa [hstrip] at hstands
  | closer kind =>
      cases h
      have hprint : printMark (.closer kind, "") = markerText false kind.closing := rfl
      rw [hprint]
      refine .marker (isMarker_closer kind) ?_
      rw [strip_closer]
      exact .closer kind
  | other name => exact absurd h id

theorem exists_segments_of_marks {ms : List (TokenKind × String)}
    (h : ∀ m ∈ ms, IsCanonicalMark m) :
    ∃ ls : List Segment, ls.map Segment.mark = ms ∧ join ls = ms.flatMap printMark := by
  induction ms with
  | nil => exact ⟨[], rfl, rfl⟩
  | cons m ms ih =>
      rw [List.forall_mem_cons] at h
      obtain ⟨ls, hmarks, hjoin⟩ := ih h.2
      refine ⟨⟨printMark m, m.1, m.2.toList, isSegment_printMark h.1⟩ :: ls, ?_, ?_⟩
      · rw [List.map_cons, hmarks, mark, String.ofList_toList]
      · rw [join_cons, hjoin, List.flatMap_cons]

/-- **What the lexer makes is what can be printed, and printing undoes it.** Kinds and values are
those of some template exactly if they are canonical, and the print of canonical ones is such a
template. -/
theorem tokenize_printMarks (ms : List (TokenKind × String)) :
    ((∃ template, (tokenize template).map (List.map Token.mark) = .ok ms) ↔ AreCanonical ms) ∧
      (AreCanonical ms → (tokenize (printMarks ms)).map (List.map Token.mark) = .ok ms) := by
  have hread {template : String}
      (h : (tokenize template).map (List.map Token.mark) = .ok ms) : AreCanonical ms := by
    obtain ⟨ts, hts, rfl⟩ := Except.map_eq_ok_iff.1 h
    obtain ⟨ls, hrow, -, rfl⟩ := scan_eq_ok_iff.1 hts
    rw [map_mark_tokens]
    refine ⟨?_, (List.isChain_map _).2 (hrow.imp fun l l' => mayPrecede_mark_iff.2)⟩
    rw [List.forall_mem_map]
    exact fun l _ => isCanonicalMark_of_isSegment l.isSegment
  have hprint (h : AreCanonical ms) :
      (tokenize (printMarks ms)).map (List.map Token.mark) = .ok ms := by
    obtain ⟨ls, rfl, hjoin⟩ := exists_segments_of_marks h.1
    have hrow : ls.IsChain Precedes :=
      ((List.isChain_map _).1 h.2).imp fun l l' => mayPrecede_mark_iff.1
    rw [tokenize, printMarks, String.toList_ofList, ← hjoin, scan_join hrow]
    exact congrArg _ (map_mark_tokens _ ls)
  exact ⟨⟨fun ⟨_, h⟩ => hread h, fun h => ⟨_, hprint h⟩⟩, hprint⟩

/-- Values that begin like a directive, end in a brace or hold closing braces. -/
theorem tokenize_printMarks_braces :
    (tokenize "\x7b\x7b#if  a\x7d \x7d\x7d\x7bx\x7b\x7b#ifs\x7d\x7d\x7b\x7b\x7b\x7d\x7d \x7d\x7d\x7d").map
        (List.map Token.mark) =
      .ok [(.opener .cond, "a\x7d"), (.text, "\x7bx"), (.variable, "#ifs"), (.raw, "\x7d\x7d")] ∧
    AreCanonical
      [(.opener .cond, "a\x7d"), (.text, "\x7bx"), (.variable, "#ifs"), (.raw, "\x7d\x7d")] ∧
    (tokenize (printMarks
        [(.opener .cond, "a\x7d"), (.text, "\x7bx"), (.variable, "#ifs"), (.raw, "\x7d\x7d")])).map
        (List.map Token.mark) =
      .ok [(.opener .cond, "a\x7d"), (.text, "\x7bx"), (.variable, "#ifs"), (.raw, "\x7d\x7d")] := by
  have hcanonical := (tokenize_printMarks
    [(.opener .cond, "a\x7d"), (.text, "\x7bx"), (.variable, "#ifs"), (.raw, "\x7d\x7d")]).1.1
    ⟨"\x7b\x7b#if  a\x7d \x7d\x7d\x7bx\x7b\x7b#ifs\x7d\x7d\x7b\x7b\x7b\x7d\x7d \x7d\x7d\x7d",
      by decide +kernel⟩
  exact ⟨by decide +kernel, hcanonical, (tokenize_printMarks _).2 hcanonical⟩

end Curly
