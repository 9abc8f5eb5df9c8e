import Curly.Proofs.Except
import Curly.Proofs.Text.Search
import Curly.Proofs.Text.Space
import Curly.Token.Lexer
import Mathlib.Data.List.Chain

/-!
Segments: the stretches of a template that make one token each. A template has tokens exactly if it
is segments in a row (`scan_eq_ok_iff`), and it fails exactly where segments end and a bad marker
begins (`scan_eq_error_iff`). Both come from what the lexer does with a segment in front of any
text, and all that is proved of the lexer is proved of rows of segments.
-/

namespace Curly

open Text

/-! ## What the content of a marker stands for -/

/-- What a marker holds that opens a block of a kind, before its argument. -/
def BlockKind.opening (kind : BlockKind) : List Char := '#' :: kind.keyword.toList

/-- What a marker holds that closes a block of a kind. -/
def BlockKind.closing (kind : BlockKind) : List Char := '/' :: kind.keyword.toList

namespace Lexer

/-- A content that opens a block: its keyword, alone or before a space. -/
def IsDirective (kind : BlockKind) (content : List Char) : Prop :=
  content = kind.opening ∨ ∃ rest, content = kind.opening ++ ' ' :: rest

/-- `Stands content kind value`: the trimmed content of a marker stands for a token. -/
inductive Stands : List Char → TokenKind → List Char → Prop
  | opener (kind : BlockKind) {rest : List Char} (harg : strip rest ≠ []) :
      Stands (kind.opening ++ ' ' :: rest) (.opener kind) (strip rest)
  | closer (kind : BlockKind) : Stands kind.closing (.closer kind) []
  | variable {content : List Char} (hopen : ∀ kind, ¬IsDirective kind content)
      (hclose : content.head? ≠ some '/') : Stands content .variable content

theorem argument?_opening (kind : BlockKind) : argument? kind.opening kind.opening = some [] := by
  cases kind <;> rfl

theorem argument?_opening_append (kind : BlockKind) (rest : List Char) :
    argument? kind.opening (kind.opening ++ ' ' :: rest) = some (strip rest) := by
  cases kind <;> rfl

/-- An argument is what follows the keyword of a block. -/
theorem eq_of_argument? {kind : BlockKind} {content a : List Char}
    (h : argument? kind.opening content = some a) :
    content = kind.opening ∧ a = [] ∨
      ∃ rest, content = kind.opening ++ ' ' :: rest ∧ a = strip rest := by
  rw [argument?] at h
  split at h
  · rename_i hprefix
    obtain ⟨rest, rfl⟩ := List.isPrefixOf_iff_prefix.1 hprefix
    rw [List.drop_left] at h
    split at h
    · cases h
      exact .inl ⟨List.append_nil _, rfl⟩
    · cases h
      exact .inr ⟨_, rfl, rfl⟩
    · cases h
  · cases h

/-- A content has an argument exactly if it opens a block. -/
theorem argument?_eq_none_iff {kind : BlockKind} {content : List Char} :
    argument? kind.opening content = none ↔ ¬IsDirective kind content := by
  constructor
  · rintro h (rfl | ⟨rest, rfl⟩)
    · rw [argument?_opening] at h
      cases h
    · rw [argument?_opening_append] at h
      cases h
  · intro h
    cases ha : argument? kind.opening content with
    | none => rfl
    | some a =>
        obtain ⟨hc, -⟩ | ⟨rest, hc, -⟩ := eq_of_argument? ha
        · exact absurd (.inl hc) h
        · exact absurd (.inr ⟨rest, hc⟩) h

/-- A content with an argument opens a block. -/
theorem stands_of_argument? (kind : BlockKind) {content a : List Char}
    (h : argument? kind.opening content = some a) (ha : a ≠ []) :
    Stands content (.opener kind) a := by
  obtain ⟨-, rfl⟩ | ⟨rest, rfl, rfl⟩ := eq_of_argument? h
  · exact absurd rfl ha
  · exact .opener kind ha

/-- A content that stands for a token is read as that token. -/
theorem classify_of_stands {content value : List Char} {kind : TokenKind}
    (h : Stands content kind value) : classify content = .ok (kind, value) := by
  cases h with
  | @opener kind rest harg =>
      obtain ⟨c, cs, hvalue⟩ := List.exists_cons_of_ne_nil harg
      cases kind with
      | cond =>
          have hcond : argument? "#if".toList _ = _ := argument?_opening_append .cond rest
          rw [hvalue] at hcond ⊢
          simp only [classify, hcond]
      | each =>
          have hcond : argument? "#if".toList (BlockKind.each.opening ++ ' ' :: rest) = none := rfl
          have heach : argument? "#each".toList _ = _ := argument?_opening_append .each rest
          rw [hvalue] at heach ⊢
          simp only [classify, hcond, heach]
  | closer kind => cases kind <;> rfl
  -- a variable is what is left when each of the other tests has failed
  | «variable» hopen hclose =>
      have hcond : argument? "#if".toList content = none :=
        argument?_eq_none_iff.2 (hopen .cond)
      have heach : argument? "#each".toList content = none :=
        argument?_eq_none_iff.2 (hopen .each)
      have hif : content ≠ "/if".toList := fun h => hclose (h ▸ rfl)
      have hend : content ≠ "/each".toList := fun h => hclose (h ▸ rfl)
      simp only [classify, hcond, heach, hif, hend, hclose, if_false]

/-- A content that is read as a token stands for that token. -/
theorem stands_of_classify {content value : List Char} {kind : TokenKind}
    (h : classify content = .ok (kind, value)) : Stands content kind value := by
  rw [classify] at h
  split at h
  · cases h
  · rename_i a hne harg
    cases h
    exact stands_of_argument? .cond harg hne
  -- the tests are made in turn, and each that fails says what the content is not
  rename_i hcond
  split at h
  · cases h
  · rename_i a hne harg
    cases h
    exact stands_of_argument? .each harg hne
  rename_i heach
  split at h
  · rename_i hif
    cases h
    exact hif ▸ .closer .cond
  split at h
  · rename_i hend
    cases h
    exact hend ▸ .closer .each
  split at h
  · cases h
  · rename_i hclose
    cases h
    refine .variable (fun kind => ?_) hclose
    cases kind with
    | cond => exact argument?_eq_none_iff.1 hcond
    | each => exact argument?_eq_none_iff.1 heach

theorem Stands.kind_ne_text {content value : List Char} {kind : TokenKind}
    (h : Stands content kind value) : kind ≠ .text := by
  cases h
  all_goals exact TokenKind.noConfusion

/-! ## Markers -/

/-- A content that stands in a marker: the marker ends with the first closing braces of its kind
behind the opening ones, and what opens without a third brace goes on without one. -/
def IsMarker : (raw : Bool) → (content : List Char) → Prop
  | true, content => IsFirstAfter rawClosing content
  | false, content => content.head? ≠ some '\x7b' ∧ IsFirstAfter closing content

theorem marker?_raw {content : List Char} (h : IsMarker true content) (rest : List Char) :
    marker? ('\x7b' :: (content ++ rawClosing ++ rest)) = some (true, content, rest) := by
  rw [marker?, cut_append h]
  rfl

theorem marker?_plain {content : List Char} (h : IsMarker false content) (rest : List Char) :
    marker? (content ++ closing ++ rest) = some (false, content, rest) := by
  unfold marker?
  split
  · rename_i s heq
    cases content with
    | nil => cases heq
    | cons c cs =>
        cases heq
        exact absurd rfl h.1
  · rw [cut_append h.2]
    rfl

/-- A marker is found exactly where its text stands. -/
theorem marker?_eq_some_iff {inner content rest : List Char} {raw : Bool} :
    marker? inner = some (raw, content, rest) ↔
      opening ++ inner = markerText raw content ++ rest ∧ IsMarker raw content := by
  constructor
  · intro h
    unfold marker? at h
    split at h
    · obtain ⟨⟨content, rest⟩, hcut, heq⟩ := Option.map_eq_some_iff.1 h
      cases heq
      obtain ⟨rfl, hfirst⟩ := (cut_eq_some_iff (by decide)).1 hcut
      exact ⟨by simp [markerText], hfirst⟩
    · -- without a third brace the content may not begin with one, or the marker would be raw
      rename_i hbrace
      obtain ⟨⟨content, rest⟩, hcut, heq⟩ := Option.map_eq_some_iff.1 h
      cases heq
      obtain ⟨rfl, hfirst⟩ := (cut_eq_some_iff (by decide)).1 hcut
      refine ⟨by simp [markerText], fun hhead => ?_, hfirst⟩
      obtain ⟨cs, rfl⟩ := List.head?_eq_some_iff.1 hhead
      exact hbrace _ rfl
  · rintro ⟨htext, h⟩
    cases raw with
    | true =>
        have hinner : inner = '\x7b' :: (content ++ rawClosing ++ rest) := by
          simpa [markerText] using htext
        rw [hinner, marker?_raw h]
    | false =>
        have hinner : inner = content ++ closing ++ rest := by simpa [markerText] using htext
        rw [hinner, marker?_plain h]

/-- The marker of a content that stands for a token makes this token. -/
theorem token_of_stands {content value : List Char} {kind : TokenKind}
    (h : Stands (strip content) kind value) (p : Place) :
    token false content p = .ok ⟨kind, String.ofList value, p⟩ := by
  simp [token, classify_of_stands h]

/-- A marker makes no text. -/
theorem kind_of_token {raw : Bool} {content : List Char} {p : Place} {t : Token}
    (h : token raw content p = .ok t) : t.kind ≠ .text := by
  cases raw with
  | true =>
      cases h
      exact TokenKind.noConfusion
  | false =>
      simp only [token] at h
      cases hc : classify (strip content) with
      | error cause => simp [hc] at h
      | ok r =>
          rw [hc] at h
          cases h
          exact (stands_of_classify hc).kind_ne_text

/-! ## Segments -/

/-- `IsSegment text kind value`: a stretch of a template makes a token. A text holds no opening
braces. A marker is raw and its content, trimmed, is its value, or its content, trimmed, stands for
the token. -/
inductive IsSegment : List Char → TokenKind → List Char → Prop
  | text {s : List Char} (hne : s ≠ []) (hopen : ¬opening <:+: s) : IsSegment s .text s
  | raw {content : List Char} (h : IsMarker true content) :
      IsSegment (markerText true content) .raw (strip content)
  | marker {content value : List Char} {kind : TokenKind} (h : IsMarker false content)
      (hstands : Stands (strip content) kind value) :
      IsSegment (markerText false content) kind value

/-- A stretch of a template that makes a token. -/
structure Segment where
  text : List Char
  kind : TokenKind
  value : List Char
  isSegment : IsSegment text kind value

namespace Segment

/-- The token of a segment that starts at a place. -/
def token (l : Segment) (p : Place) : Token := ⟨l.kind, String.ofList l.value, p⟩

/-- Which segment may stand before which: a text is as long as it can be, and no brace at its end
would open the marker behind it one character earlier. -/
def Precedes (l l' : Segment) : Prop :=
  l.kind = .text → l'.kind ≠ .text ∧ l.text.getLast? ≠ some '\x7b'

/-- The text of segments in a row. -/
def join (ls : List Segment) : List Char := ls.flatMap text

/-- The tokens of segments in a row, of which the first starts at a place. -/
def tokens : Place → List Segment → List Token
  | _, [] => []
  | p, l :: ls => l.token p :: tokens (p.advance l.text) ls

end Segment

/-! ## What the lexer does at each step -/

/-- The lexer cuts at the first opening braces, reads the marker there and goes on behind it. -/
theorem scan_eq (p : Place) (s : List Char) :
    scan p s =
      match cut opening s with
      | none => .ok (textToken s p)
      | some (before, inner) =>
        match marker? inner with
        | none => .error ⟨.unclosed, p.advance before⟩
        | some (raw, content, rest) =>
          (token raw content (p.advance before)).bind fun t =>
            (scan ((p.advance before).advance (markerText raw content)) rest).map fun ts =>
              textToken before p ++ t :: ts := by
  rw [scan]
  split
  · rename_i hcut
    rw [hcut]
  · rename_i before inner hcut
    -- the recursion carries proofs that the rest is shorter, so only the other side is rewritten
    conv_rhs => rw [hcut]
    dsimp only
    split
    · rename_i hmarker
      rw [hmarker]
    · rename_i raw content rest hmarker
      conv_rhs => rw [hmarker]
      refine congrArg _ (funext fun t => ?_)
      cases scan ((p.advance before).advance (markerText raw content)) rest <;> rfl

/-- A text without opening braces is one token at most. -/
theorem scan_of_no_opening {s : List Char} (h : ¬opening <:+: s) (p : Place) :
    scan p s = .ok (textToken s p) := by
  rw [scan_eq, cut_eq_none_iff.2 h]

/-- A marker in front is read as it is. -/
theorem scan_opening (p : Place) (inner : List Char) :
    scan p (opening ++ inner) =
      match marker? inner with
      | none => .error ⟨.unclosed, p⟩
      | some (raw, content, rest) =>
        (token raw content p).bind fun t =>
          (scan (p.advance (markerText raw content)) rest).map (t :: ·) := by
  have hcut : cut opening (opening ++ inner) = some ([], inner) :=
    cut_append (isFirstAfter_nil (by decide)) inner
  rw [scan_eq, hcut]
  rfl

theorem scan_marker {raw : Bool} {content : List Char} (h : IsMarker raw content) (p : Place)
    (s : List Char) :
    scan p (markerText raw content ++ s) =
      (token raw content p).bind fun t =>
        (scan (p.advance (markerText raw content)) s).map (t :: ·) := by
  obtain ⟨inner, hinner⟩ : ∃ inner, opening ++ inner = markerText raw content ++ s := by
    cases raw
    all_goals
      simp only [markerText, List.append_assoc]
      exact ⟨_, rfl⟩
  rw [← hinner, scan_opening, marker?_eq_some_iff.2 ⟨hinner, h⟩]

/-- A segment in front that is no text is one token. -/
theorem scan_segment {l : Segment} (hl : l.kind ≠ .text) (p : Place) (s : List Char) :
    scan p (l.text ++ s) = (scan (p.advance l.text) s).map (l.token p :: ·) := by
  obtain ⟨text, kind, value, h⟩ := l
  cases h with
  | text => exact absurd rfl hl
  | raw h =>
      rw [scan_marker h]
      rfl
  | marker h hstands =>
      rw [scan_marker h, token_of_stands hstands]
      rfl

/-! ## Texts and seams -/

/-- Tokens in a row; a text that ends the first ones and a text that starts the others are one. -/
def joinTokens : List Token → List Token → List Token
  | [], us => us
  | [t], u :: us =>
    if t.kind = .text ∧ u.kind = .text then { t with value := t.value ++ u.value } :: us
    else t :: u :: us
  | t :: ts, us => t :: joinTokens ts us

/-- Whether two braces meet where two texts are put together. -/
def BracesMeet (s t : List Char) : Prop := s.getLast? = some '\x7b' ∧ t.head? = some '\x7b'

theorem joinTokens_of_kind {t : Token} (ht : t.kind ≠ .text) (ts us : List Token) :
    joinTokens (t :: ts) us = t :: joinTokens ts us := by
  cases ts with
  | nil => cases us <;> simp [joinTokens, ht]
  | cons t' ts => rfl

theorem joinTokens_singleton_of_kind {t u : Token} (hu : u.kind ≠ .text) (us : List Token) :
    joinTokens [t] (u :: us) = t :: u :: us := by
  simp [joinTokens, hu]

theorem joinTokens_singleton_joinTokens {t u : Token} (hu : u.kind ≠ .text) (ts us : List Token) :
    joinTokens [t] (joinTokens (u :: ts) us) = joinTokens (t :: u :: ts) us := by
  rw [joinTokens_of_kind hu, joinTokens_singleton_of_kind hu, joinTokens, joinTokens_of_kind hu]
  simp

theorem joinTokens_nil_right (ts : List Token) : joinTokens ts [] = ts := by
  induction ts with
  | nil => rfl
  | cons t ts ih =>
      rw [joinTokens, ih]
      simp

/-- Texts without opening braces make none together, unless two braces meet. -/
theorem not_infix_opening_append {s t : List Char} (hs : ¬opening <:+: s) (ht : ¬opening <:+: t)
    (hseam : ¬BracesMeet s t) : ¬opening <:+: s ++ t := by
  rw [opening, pair_infix_append_iff]
  rintro (hin | hin | hmeet)
  · exact hs hin
  · exact ht hin
  · exact hseam hmeet

/-- The first opening braces stay the first ones behind a text without any. -/
theorem isFirstAfter_opening_append {s before rest : List Char} (hs : ¬opening <:+: s)
    (h : IsFirstAfter opening before) (hseam : ¬BracesMeet s (before ++ opening ++ rest)) :
    IsFirstAfter opening (s ++ before) := by
  have hopening : opening.dropLast = ['\x7b'] := rfl
  rw [IsFirstAfter, hopening] at h ⊢
  rw [List.append_assoc]
  refine not_infix_opening_append hs h fun hmeet => hseam ⟨hmeet.1, ?_⟩
  cases before with
  | nil => rfl
  | cons c cs => exact hmeet.2

theorem joinTokens_textToken {text : List Char} (hne : text ≠ []) {t : Token}
    (ht : t.kind ≠ .text) (before : List Char) (ts : List Token) (p : Place) :
    joinTokens [⟨.text, String.ofList text, p⟩] (textToken before (p.advance text) ++ t :: ts) =
      textToken (text ++ before) p ++ t :: ts := by
  cases before with
  | nil => simp [textToken, joinTokens, ht, hne]
  | cons c cs => simp [textToken, joinTokens]

/-- A text in front is one token, together with what the rest starts with if that is text. -/
theorem scan_text {text : List Char} (hne : text ≠ []) (hopen : ¬opening <:+: text)
    {s : List Char} (hseam : ¬BracesMeet text s) (p : Place) :
    scan p (text ++ s) =
      (scan (p.advance text) s).map (joinTokens [⟨.text, String.ofList text, p⟩]) := by
  cases hcut : cut opening s with
  | none =>
      have hs : ¬opening <:+: s := cut_eq_none_iff.1 hcut
      -- all is text, and one token
      rw [scan_of_no_opening hs, scan_of_no_opening (not_infix_opening_append hopen hs hseam)]
      cases s with
      | nil => simp [Except.map, textToken, joinTokens, hne]
      | cons c cs => simp [Except.map, textToken, joinTokens, hne]
  | some r =>
      obtain ⟨before, inner⟩ := r
      obtain ⟨rfl, hfirst⟩ := (cut_eq_some_iff (by decide)).1 hcut
      -- the first marker is the same one, with more text in front of it
      have hcut' : cut opening (text ++ (before ++ opening ++ inner)) =
          some (text ++ before, inner) := by
        rw [← List.append_assoc, ← List.append_assoc]
        exact cut_append (isFirstAfter_opening_append hopen hfirst hseam) inner
      rw [scan_eq, hcut', scan_eq (p.advance text), hcut]
      dsimp only
      rw [Place.advance_append]
      cases marker? inner with
      | none => rfl
      | some m =>
          obtain ⟨raw, content, rest⟩ := m
          dsimp only
          cases ht : token raw content ((p.advance text).advance before) with
          | error e => rfl
          | ok t =>
              simp only [Except.bind]
              cases scan (((p.advance text).advance before).advance (markerText raw content))
                rest with
              | error e => rfl
              | ok ts =>
                  simp only [Except.map]
                  exact congrArg _ (joinTokens_textToken hne (kind_of_token ht) before ts p).symm

/-! ## Rows of segments -/

namespace Segment

theorem join_nil : join [] = [] := rfl

theorem join_cons (l : Segment) (ls : List Segment) : join (l :: ls) = l.text ++ join ls := rfl

theorem text_ne_nil (l : Segment) : l.text ≠ [] := by
  obtain ⟨text, kind, value, h⟩ := l
  cases h with
  | text hne => exact hne
  | raw => simp [markerText, opening]
  | marker => simp [markerText, opening]

theorem not_infix_of_text {l : Segment} (hl : l.kind = .text) : ¬opening <:+: l.text := by
  obtain ⟨text, kind, value, h⟩ := l
  cases h with
  | text _ hopen => exact hopen
  | raw => cases hl
  | marker _ hstands => exact absurd hl hstands.kind_ne_text

theorem value_of_text {l : Segment} (hl : l.kind = .text) : l.value = l.text := by
  obtain ⟨text, kind, value, h⟩ := l
  cases h with
  | text => rfl
  | raw => cases hl
  | marker _ hstands => exact absurd hl hstands.kind_ne_text

/-- A marker ends with a closing brace. -/
theorem getLast?_of_marker {l : Segment} (hl : l.kind ≠ .text) : l.text.getLast? = some '\x7d' := by
  obtain ⟨text, kind, value, h⟩ := l
  cases h with
  | text => exact absurd rfl hl
  | raw => simp [markerText, rawClosing, List.getLast?_cons]
  | marker => simp [markerText, closing, List.getLast?_cons]

end Segment

open Segment

/-- Segments in front are their tokens, and the lexer goes on behind them. -/
theorem scan_join_append : (ls : List Segment) → ls.IsChain Precedes → (s : List Char) →
    ¬BracesMeet (join ls) s → (p : Place) →
    scan p (join ls ++ s) = (scan (p.advance (join ls)) s).map (joinTokens (tokens p ls))
  | [], _, s, _, p => by
      show scan p s = (scan p s).map (joinTokens [])
      cases scan p s <;> rfl
  | l :: ls, hrow, s, hseam, p => by
      obtain ⟨hnext, hrow⟩ := List.isChain_cons.1 hrow
      have hseam' : ¬BracesMeet (join ls) s := by
        rintro ⟨hlast, hhead⟩
        refine hseam ⟨?_, hhead⟩
        rw [join_cons, List.getLast?_append, hlast]
        rfl
      have ih := scan_join_append ls hrow s hseam' (p.advance l.text)
      rw [join_cons, List.append_assoc, Place.advance_append, tokens]
      by_cases hl : l.kind = .text
      · have hmeet : ¬BracesMeet l.text (join ls ++ s) := by
          cases ls with
          | nil => rwa [join_cons, join_nil, List.append_nil] at hseam
          | cons m ls => exact fun h => (hnext m rfl hl).2 h.1
        have htoken : l.token p = ⟨.text, String.ofList l.text, p⟩ := by
          rw [Segment.token, hl, value_of_text hl]
        -- the segment behind a text is a marker, so that this text is joined with none
        rw [scan_text l.text_ne_nil (not_infix_of_text hl) hmeet, ih, ← htoken]
        cases scan ((p.advance l.text).advance (join ls)) s with
        | error e => rfl
        | ok us =>
            cases ls with
            | nil => rfl
            | cons m ls =>
                have hm : (m.token (p.advance l.text)).kind ≠ .text := (hnext m rfl hl).1
                exact congrArg Except.ok (joinTokens_singleton_joinTokens hm _ us)
      · rw [scan_segment hl, ih]
        cases scan ((p.advance l.text).advance (join ls)) s with
        | error e => rfl
        | ok us => exact congrArg _ (joinTokens_of_kind hl _ us).symm

/-- `IsFault s cause`: a text begins with a marker that is no token. -/
inductive IsFault : List Char → SyntaxCause → Prop
  | unclosed {inner : List Char} (h : marker? inner = none) : IsFault (opening ++ inner) .unclosed
  | refused {content rest : List Char} {cause : SyntaxCause} (h : IsMarker false content)
      (hrefused : classify (strip content) = .error cause) :
      IsFault (markerText false content ++ rest) cause

theorem IsFault.opening_isPrefix {s : List Char} {cause : SyntaxCause} (h : IsFault s cause) :
    opening <+: s := by
  cases h with
  | unclosed => exact List.prefix_append _ _
  | refused =>
      simp only [markerText, Bool.false_eq_true, if_false, List.append_assoc]
      exact List.prefix_append _ _

theorem scan_of_isFault {s : List Char} {cause : SyntaxCause} (h : IsFault s cause) (p : Place) :
    scan p s = .error ⟨cause, p⟩ := by
  cases h with
  | unclosed h => rw [scan_opening, h]
  | refused h hrefused =>
      rw [scan_marker h]
      simp [token, hrefused, Except.bind]

/-- A text without opening braces may stand in front of segments. -/
theorem exists_row_of_text {before : List Char} (hopen : ¬opening <:+: before) {ls : List Segment}
    (hrow : ls.IsChain Precedes)
    (hhead : ∀ l ∈ ls.head?, l.kind ≠ .text ∧ before.getLast? ≠ some '\x7b') :
    ∃ ls' : List Segment, ls'.IsChain Precedes ∧ join ls' = before ++ join ls := by
  by_cases hne : before = []
  · exact ⟨ls, hrow, by rw [hne, List.nil_append]⟩
  · refine ⟨⟨before, .text, before, .text hne hopen⟩ :: ls, ?_, rfl⟩
    exact List.isChain_cons.2 ⟨fun l hl _ => hhead l hl, hrow⟩

/-- No brace stands before the first opening braces. -/
theorem getLast?_of_isFirstAfter {before : List Char} (h : IsFirstAfter opening before) :
    before.getLast? ≠ some '\x7b' := by
  intro hlast
  exact h (pair_infix_append_iff.2 (.inr (.inr ⟨hlast, rfl⟩)))

/-- Opening braces begin a bad marker or a segment. -/
theorem isFault_or_segment (inner : List Char) :
    (∃ cause, IsFault (opening ++ inner) cause) ∨
      ∃ (l : Segment) (rest : List Char), l.kind ≠ .text ∧ opening ++ inner = l.text ++ rest := by
  cases hm : marker? inner with
  | none => exact .inl ⟨_, .unclosed hm⟩
  | some m =>
      obtain ⟨raw, content, rest⟩ := m
      obtain ⟨htext, hmarker⟩ := marker?_eq_some_iff.1 hm
      cases raw with
      | true => exact .inr ⟨⟨_, _, _, .raw hmarker⟩, rest, TokenKind.noConfusion, htext⟩
      | false =>
          cases hc : classify (strip content) with
          | error cause => exact .inl ⟨cause, htext ▸ .refused hmarker hc⟩
          | ok r =>
              have hstands := stands_of_classify hc
              exact .inr ⟨⟨_, _, _, .marker hmarker hstands⟩, rest, hstands.kind_ne_text, htext⟩

/-- Every template is segments in a row, up to its end or up to a bad marker. The induction goes by
the length, because what stands behind a marker is no part of the template by its form. -/
theorem exists_segments : (s : List Char) → ∃ (ls : List Segment) (bad : List Char),
    ls.IsChain Precedes ∧ s = join ls ++ bad ∧
      (bad = [] ∨ (join ls).getLast? ≠ some '\x7b' ∧ ∃ cause, IsFault bad cause)
  | s => by
      cases hcut : cut opening s with
      | none =>
          obtain ⟨ls, hrow, hjoin⟩ := exists_row_of_text (cut_eq_none_iff.1 hcut)
            List.isChain_nil fun l hl => nomatch hl
          exact ⟨ls, [], hrow, by rw [hjoin, join_nil, List.append_nil, List.append_nil], .inl rfl⟩
      | some r =>
          obtain ⟨before, inner⟩ := r
          obtain ⟨rfl, hfirst⟩ := (cut_eq_some_iff (by decide)).1 hcut
          have hlast := getLast?_of_isFirstAfter hfirst
          rw [List.append_assoc]
          obtain ⟨cause, hfault⟩ | ⟨l, rest, hl, htext⟩ := isFault_or_segment inner
          · obtain ⟨ls, hrow, hjoin⟩ := exists_row_of_text hfirst.not_isInfix List.isChain_nil
              fun l hl => nomatch hl
            rw [join_nil, List.append_nil] at hjoin
            exact ⟨ls, opening ++ inner, hrow, by rw [hjoin], .inr ⟨hjoin ▸ hlast, cause, hfault⟩⟩
          -- the marker is a segment, and the rest behind it is shorter
          · have hlt : rest.length < (before ++ opening ++ inner).length := by
              have := List.length_pos_iff.2 l.text_ne_nil
              rw [List.append_assoc, htext, List.length_append, List.length_append]
              omega
            obtain ⟨ls, bad, hrow, rfl, hbad⟩ := exists_segments rest
            have hrow₁ : (l :: ls).IsChain Precedes :=
              List.isChain_cons.2 ⟨fun m _ h => absurd h hl, hrow⟩
            obtain ⟨ls', hrow', hjoin⟩ := exists_row_of_text hfirst.not_isInfix hrow₁ fun m hm => by
              cases hm
              exact ⟨hl, hlast⟩
            refine ⟨ls', bad, hrow', ?_, ?_⟩
            · rw [htext, hjoin, join_cons]
              simp
            · obtain rfl | ⟨hend, hfault⟩ := hbad
              · exact .inl rfl
              -- no brace in front of the bad marker: a marker ends with another character
              · refine .inr ⟨?_, hfault⟩
                rw [hjoin, join_cons, List.getLast?_append, List.getLast?_append,
                  getLast?_of_marker hl]
                cases hj : (join ls).getLast? with
                | none => simp
                | some c => simpa [hj] using hend
termination_by s => s.length

/-! ## Where the lexer succeeds and where it fails -/

/-- Segments in a row are read as their tokens. -/
theorem scan_join {ls : List Segment} (hrow : ls.IsChain Precedes) (p : Place) :
    scan p (join ls) = .ok (tokens p ls) := by
  have hnil : scan (p.advance (join ls)) [] = .ok [] := scan_of_no_opening (by decide) _
  have h := scan_join_append ls hrow [] (fun h => nomatch h.2) p
  rw [List.append_nil, hnil] at h
  rw [h]
  exact congrArg _ (joinTokens_nil_right _)

/-- A bad marker behind segments is found. -/
theorem scan_join_fault {ls : List Segment} (hrow : ls.IsChain Precedes) {bad : List Char}
    {cause : SyntaxCause} (hlast : (join ls).getLast? ≠ some '\x7b') (h : IsFault bad cause)
    (p : Place) : scan p (join ls ++ bad) = .error ⟨cause, p.advance (join ls)⟩ := by
  rw [scan_join_append ls hrow bad (fun h => hlast h.1) p, scan_of_isFault h]
  rfl

/-- A template has tokens if and only if it is segments in a row. -/
theorem scan_eq_ok_iff {p : Place} {s : List Char} {ts : List Token} :
    scan p s = .ok ts ↔
      ∃ ls : List Segment, ls.IsChain Precedes ∧ join ls = s ∧ tokens p ls = ts := by
  constructor
  · intro h
    obtain ⟨ls, bad, hrow, rfl, rfl | ⟨hlast, cause, hfault⟩⟩ := exists_segments s
    · rw [List.append_nil, scan_join hrow] at h
      exact ⟨ls, hrow, (List.append_nil _).symm, Except.ok.inj h⟩
    · rw [scan_join_fault hrow hlast hfault] at h
      cases h
  · rintro ⟨ls, hrow, rfl, rfl⟩
    exact scan_join hrow p

/-- A template fails if and only if it is segments in a row and then a bad marker. -/
theorem scan_eq_error_iff {p : Place} {s : List Char} {e : SyntaxFailure} :
    scan p s = .error e ↔
      ∃ (ls : List Segment) (bad : List Char), ls.IsChain Precedes ∧ s = join ls ++ bad ∧
        (join ls).getLast? ≠ some '\x7b' ∧ IsFault bad e.cause ∧
        e.place = p.advance (join ls) := by
  constructor
  · intro h
    obtain ⟨ls, bad, hrow, rfl, rfl | ⟨hlast, cause, hfault⟩⟩ := exists_segments s
    · rw [List.append_nil, scan_join hrow] at h
      cases h
    · rw [scan_join_fault hrow hlast hfault] at h
      cases h
      exact ⟨ls, bad, hrow, rfl, hlast, hfault, rfl⟩
  · rintro ⟨ls, bad, hrow, rfl, hlast, hfault, hplace⟩
    rw [scan_join_fault hrow hlast hfault, ← hplace]

end Lexer

end Curly
