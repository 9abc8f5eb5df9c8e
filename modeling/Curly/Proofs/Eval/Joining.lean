import Curly.Proofs.Eval.Member
import Curly.Proofs.Value.Data

/-!
Joined items. An item that is joined is written as it is put out, but for a whole number of the
floating-point format, which keeps its fraction. So a joined text tells whether there is one among
the items, by the points and exponents in it.
-/

namespace Curly

/-! ## Points and exponents -/

namespace Text

/-- How many points and signs of an exponent there may be in a text. -/
def marks (s : String) : Nat := s.toList.countP fun c => c == '.' || c == 'e'

theorem marks_append (s t : String) : marks (s ++ t) = marks s + marks t := by
  rw [marks, String.toList_append, List.countP_append]
  rfl

/-- A joined text has the marks of the texts, and those of the separators. -/
theorem marks_intercalate (sep : String) (ss : List String) :
    marks (String.intercalate sep ss) = (ss.map marks).sum + (ss.length - 1) * marks sep := by
  induction ss with
  | nil => simp [marks]
  | cons s ss ih =>
      cases ss with
      | nil => simp
      | cons t ss =>
          rw [String.intercalate_cons_cons, marks_append, marks_append, ih]
          simp only [List.map_cons, List.sum_cons, List.length_cons]
          simp only [Nat.add_sub_cancel, Nat.succ_mul]
          omega

theorem marks_toDigits (n : Nat) :
    (Nat.toDigits 10 n).countP (fun c => c == '.' || c == 'e') = 0 := by
  rw [List.countP_eq_zero]
  intro c hc hmark
  have hdigit := Nat.isDigit_of_mem_toDigits (by decide) (by decide) hc
  rw [Bool.or_eq_true, beq_iff_eq, beq_iff_eq] at hmark
  obtain rfl | rfl := hmark
  · cases hdigit
  · cases hdigit

/-- An integer is written without marks. -/
theorem marks_integer (n : Int) : marks (toString n) = 0 := by
  rw [Int.toString_eq_repr, Int.repr_eq_if]
  split
  · rw [marks, Nat.toList_repr, marks_toDigits]
  · rw [marks_append, marks, marks, Nat.toList_repr, marks_toDigits]
    rfl

end Text

open Text

/-- A finite number of the floating-point format is written with a point or an exponent. -/
theorem FloatLayout.marks_write (negative : Bool) (m : Nat) (e : Int) :
    0 < marks (value.write (.finite negative m e)) := by
  -- Each way to lay out the digits writes a point or an exponent.
  have hbody (d : Decimal) : ∃ c ∈ value.body d, (c == '.' || c == 'e') = true := by
    rw [body]
    dsimp only
    split
    · split
      · exact ⟨'.', by simp [value], rfl⟩
      · split
        · exact ⟨'.', by simp, rfl⟩
        · exact ⟨'.', by simp, rfl⟩
    · exact ⟨'e', by simp, rfl⟩
  obtain ⟨c, hc, hmark⟩ := hbody (Decimal.shortest m e)
  rw [marks, write, String.toList_ofList, List.countP_pos_iff]
  exact ⟨c, List.mem_append_right _ hc, hmark⟩

namespace Value

/-- Whether a value is a whole number of the floating-point format. -/
def isWholeFloat : Value → Bool
  | .float x => x.isWhole
  | _ => false

/-- The texts of items in the output, with a text between them. -/
def interpolated (sep : String) (items : List Value) : Except Fault String :=
  String.intercalate sep <$> items.mapM stringify

/-- The texts of items in the output, but whole numbers as they are written, with a text between
them. -/
def joined (sep : String) (items : List Value) : Except Fault String :=
  String.intercalate sep <$> items.mapM fun w => if w.isWholeFloat then w.written else w.stringify

variable {v w : Value} {items : List Value}

/-! ## Items -/

theorem stringify_float_of_isWhole {x : Double} (hx : x.isWhole = true) (hrange : x.IsInRange) :
    ∃ n : Int, stringify (.float x) = .ok (toString n) := by
  rw [Double.isWhole] at hx
  rw [stringify]
  cases hq : x.toRat? with
  | none =>
      rw [hq] at hx
      cases hx
  | some q =>
      rw [hq] at hx
      have hden : q.den = 1 := by simpa using hx
      exact ⟨q.num, (if_pos hden).trans
        (integerText_of_isWritable (IsData.isWritable_num hrange hq hden))⟩

theorem stringify_float_of_not_isWhole {x : Double} (hx : x.isWhole = false) :
    stringify (.float x) = .ok (FloatLayout.value.write x) := by
  rw [Double.isWhole] at hx
  rw [stringify]
  cases hq : x.toRat? with
  | none => rfl
  | some q =>
      rw [hq] at hx
      have hden : q.den ≠ 1 := by simpa using hx
      exact if_neg hden

/-- An item that is joined has the text that it has in the output, unless it is a whole number. -/
theorem joinedText_eq (w : Value) :
    joinedText w = if w.isWholeFloat then w.written else w.stringify := by
  cases w with
  | float x =>
      rw [isWholeFloat]
      cases hx : x.isWhole with
      | false => exact (stringify_float_of_not_isWhole hx).symm
      | true => rfl
  | _ => simp [isWholeFloat, joinedText, stringify]

/-- What an item is joined as, and its text in the output: they are missing for the same reason, or
the first has more marks if the item is a whole number, and is the second if not. -/
theorem texts_of_item (hrange : ∀ x, w = .float x → x.IsInRange) :
    (∃ f, joinedText w = .error f ∧ w.stringify = .error f) ∨
    ∃ s t, joinedText w = .ok s ∧ w.stringify = .ok t ∧
      ((w.isWholeFloat = false ∧ s = t) ∨ (w.isWholeFloat = true ∧ marks t < marks s)) := by
  rw [joinedText_eq]
  cases hwhole : w.isWholeFloat with
  | false =>
      rw [if_neg Bool.false_ne_true]
      cases w.stringify with
      | error f => exact .inl ⟨f, rfl, rfl⟩
      | ok s => exact .inr ⟨s, s, rfl, rfl, .inl ⟨rfl, rfl⟩⟩
  | true =>
      -- only a float is a whole number with two ways to be written
      cases w with
      | float x =>
          obtain ⟨n, hn⟩ := stringify_float_of_isWhole hwhole (hrange x rfl)
          refine .inr ⟨_, _, rfl, hn, .inr ⟨rfl, ?_⟩⟩
          rw [marks_integer]
          cases x with
          | finite negative m e => exact FloatLayout.marks_write negative m e
          | _ => cases hwhole
      | _ => cases hwhole

/-- Both ways to write items fail alike, and otherwise the marks tell whether they differ. -/
theorem texts_of_items (hrange : ∀ x, .float x ∈ items → x.IsInRange) :
    (∃ f, items.mapM joinedText = .error f ∧ items.mapM stringify = .error f) ∨
    ∃ ss ts, items.mapM joinedText = .ok ss ∧ items.mapM stringify = .ok ts ∧
      ss.length = ts.length ∧ (((∀ w ∈ items, w.isWholeFloat = false) ∧ ss = ts) ∨
        ((∃ w ∈ items, w.isWholeFloat = true) ∧ (ts.map marks).sum < (ss.map marks).sum)) := by
  induction items with
  | nil => exact .inr ⟨[], [], rfl, rfl, rfl, .inl ⟨nofun, rfl⟩⟩
  | cons w items ih =>
      rw [List.mapM_cons, List.mapM_cons]
      have hfirst := texts_of_item fun x hx => hrange x (hx ▸ List.mem_cons_self)
      have hrest := ih fun x hx => hrange x (List.mem_cons_of_mem w hx)
      obtain ⟨f, hs, ht⟩ | ⟨s, t, hs, ht, hmarks⟩ := hfirst
      · exact .inl ⟨f, by rw [hs]; rfl, by rw [ht]; rfl⟩
      · obtain ⟨f, hss, hts⟩ | ⟨ss, ts, hss, hts, hlength, hmarksAll⟩ := hrest
        · exact .inl ⟨f, by rw [hs, hss]; rfl, by rw [ht, hts]; rfl⟩
        · refine .inr ⟨s :: ss, t :: ts, by rw [hs, hss]; rfl, by rw [ht, hts]; rfl, ?_, ?_⟩
          · rw [List.length_cons, List.length_cons, hlength]
          · -- no item has less marks than its text in the output, so one with more is not made up
            -- for
            simp only [List.map_cons, List.sum_cons]
            obtain ⟨hwhole, rfl⟩ | ⟨hwhole, hlt⟩ := hmarks
            · obtain ⟨hall, rfl⟩ | ⟨⟨w', hw', hwhole'⟩, hlt⟩ := hmarksAll
              · exact .inl ⟨List.forall_mem_cons.2 ⟨hwhole, hall⟩, rfl⟩
              · exact .inr ⟨⟨w', List.mem_cons_of_mem w hw', hwhole'⟩, by omega⟩
            · refine .inr ⟨⟨w, List.mem_cons_self, hwhole⟩, ?_⟩
              obtain ⟨-, rfl⟩ | ⟨-, hlt'⟩ := hmarksAll
              · omega
              · omega

/-! ## Calls -/

theorem joined_eq (sep : String) (items : List Value) :
    joined sep items = String.intercalate sep <$> items.mapM joinedText := by
  rw [joined, funext joinedText_eq]

/-- The call of the member that joins. -/
theorem invokes_join_joined (hv : v.items? = some items) (sep : String) :
    v.Invokes "join" [.str sep] (.str <$> joined sep items) := by
  have hmember : v.readMember "join" = .ok (.member v .join) := by
    cases v with
    | list | tuple | range => rfl
    | _ => cases hv
  refine invokes_of_callMember .join hmember fun h => ?_
  show Eval.ofExcept (joinWith (v.items?.getD []) (.str sep)) = _
  rw [hv, joined_eq]
  cases hjoin : items.mapM joinedText <;> simp [joinWith, hjoin]

/-- **Joined items keep the fractions of whole numbers.** What a call of the member that joins comes
to has the texts of the items, whole numbers of the floating-point format as they are written and
all else as it is put out. It fails as the texts in the output do, and else differs from them if and
only if there is such a number. -/
theorem invokes_join (hv : v.items? = some items) (hrange : ∀ x, .float x ∈ items → x.IsInRange)
    (sep : String) :
    v.Invokes "join" [.str sep] (.str <$> joined sep items) ∧
      (∀ f, joined sep items = .error f ↔ interpolated sep items = .error f) ∧
      (joined sep items = interpolated sep items ↔
        (∃ f, joined sep items = .error f) ∨ ∀ w ∈ items, w.isWholeFloat = false) := by
  refine ⟨invokes_join_joined hv sep, ?_⟩
  rw [joined_eq, interpolated]
  obtain ⟨f, hs, ht⟩ | ⟨ss, ts, hs, ht, hlength, hmarks⟩ := texts_of_items hrange
  · rw [hs, ht]
    exact ⟨fun _ => Iff.rfl, iff_of_true rfl (.inl ⟨f, rfl⟩)⟩
  · rw [hs, ht]
    refine ⟨fun f => iff_of_false nofun nofun, ?_⟩
    obtain ⟨hall, rfl⟩ | ⟨⟨w, hw, hwhole⟩, hlt⟩ := hmarks
    · exact iff_of_true rfl (.inr hall)
    · refine iff_of_false (fun hjoin => ?_) ?_
      · -- texts with as many separators between them, but not with as many marks
        have hmarks := congrArg marks (Except.ok.inj hjoin)
        rw [marks_intercalate, marks_intercalate, hlength] at hmarks
        omega
      · rintro (⟨f, hf⟩ | hall)
        · cases hf
        · rw [hall w hw] at hwhole
          cases hwhole

/-- The number two of the floating-point format is joined with its fraction, and put out without. -/
theorem invokes_join_two :
    (Value.list [.float (Double.ofInt 2), .none]).Invokes "join" [.str ", "] (.ok (.str "2.0, ")) ∧
      interpolated ", " [.float (Double.ofInt 2), .none] = .ok "2, " ∧
      joined ", " [.float (Double.ofInt 2), .none] ≠
        interpolated ", " [.float (Double.ofInt 2), .none] := by
  have hrange : ∀ x, .float x ∈ [.float (Double.ofInt 2), Value.none] → x.IsInRange := by
    intro x hx
    obtain rfl : x = Double.ofInt 2 := by simpa using hx
    exact ⟨by decide +kernel, by decide +kernel⟩
  have hjoined : joined ", " [.float (Double.ofInt 2), .none] = .ok "2.0, " := by decide +kernel
  obtain ⟨hcall, -, hsame⟩ :=
    invokes_join (v := .list [.float (Double.ofInt 2), .none]) rfl hrange ", "
  rw [hjoined] at hcall
  refine ⟨hcall, by decide +kernel, fun h => ?_⟩
  obtain ⟨f, hf⟩ | hall := hsame.1 h
  · rw [hjoined] at hf
    cases hf
  · exact absurd (hall _ List.mem_cons_self) (by decide +kernel)

end Value

end Curly
