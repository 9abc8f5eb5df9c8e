import Curly.Proofs.Term.Simple

/-!
Calls of members. What such a call comes to depends on the value and on the arguments only, wherever
it is evaluated. The members of a text that take a part of it agree on what is between two
positions: positions outside of the text are brought to its ends, and a slice counts negative ones
from behind.
-/

namespace Curly

/-- What a call of a member of a value comes to, wherever it is evaluated. -/
def Value.Invokes (v : Value) (name : String) (args : List Value) (r : Except Fault Value) : Prop :=
  ∀ (p : Program) (d : Nat) {e : Expr} {es : List Expr} {m m₁ m₂ : Machine}, p.HasOwnNames →
    e.isStarred = false → (∀ a ∈ es, a.isStarred = false) →
    Eval.expr (Eval.hooks (d + 1)) p.env e m = .ok (v, m₁) →
    es.mapM (Eval.expr (Eval.hooks (d + 1)) p.env) m₁ = .ok (args, m₂) →
    Eval.expr (Eval.hooks (d + 1)) p.env (.apply (e.member name) es) m = r.map fun w => (w, m₂)

namespace Value

variable {v : Value} {name : String} {args : List Value} {r : Except Fault Value}

/-- A member that is a function of the value and of its arguments. -/
theorem invokes_of_callMember (which : Member)
    (hmember : v.readMember name = .ok (.member v which))
    (hcall : ∀ h, Eval.callMember h v which (.ofList args) = Eval.ofExcept r) :
    v.Invokes name args r := by
  intro p d e es m m₁ m₂ hp he hes hv hargs
  have hname : Eval.expr (Eval.hooks (d + 1)) p.env (.str name) m₁ = .ok (.str name, m₁) := by
    rw [Expr.str, Eval.expr]
    rfl
  -- reading the member makes a function of the value
  have hread : Eval.expr (Eval.hooks (d + 1)) p.env (e.member name) m =
      .ok (.member v which, m₁) := by
    have hstr : (Expr.str name).isStarred = false := rfl
    have hall : ∀ a ∈ [e, .str name], a.isStarred = false := by simp [he, hstr]
    have happly : Helper.member.call (.ofList [v, .str name]) = v.readMember name := rfl
    have hterm := Eval.expr_helper_all hp (d := d) hall .member
    rw [Expr.member, ← Term.call, hterm]
    simp only [List.mapM_cons, List.mapM_nil, bind_assoc, pure_bind]
    rw [Eval.bind_of_ok hv, Eval.bind_of_ok hname, happly, hmember]
    rfl
  -- the arguments come next, and then the call
  rw [Expr.apply, Eval.expr, Eval.bind_of_ok hread]
  simp only [Eval.arguments_positional _ _ _ es hes, bind_assoc, pure_bind]
  rw [Eval.bind_of_ok hargs]
  exact (congrFun (hcall (Eval.hooks d)) m₂).trans (Eval.Reads.ofExcept m₂ r)

/-- A call of a member with constants as arguments comes to one result. -/
theorem Invokes.unique {r' : Except Fault Value} {es : List Expr} (hes : ∀ a ∈ es, a.IsConstant)
    (hargs : es.mapM Expr.constant = .ok args) (h : v.Invokes name args r)
    (h' : v.Invokes name args r') : r = r' := by
  -- the value may stand in a variable of the generated function
  let p : Program := ⟨[]⟩
  have hp : p.HasOwnNames := Program.hasOwnNames_nil
  let m : Machine := { frames := #[[(contextName, v)]] }
  have hv : Eval.expr (Eval.hooks 1) p.env (.name contextName) m = .ok (v, m) :=
    Eval.load_of_mem_varNames (by simp [Program.varNames]) rfl (by decide)
  have hstarred : ∀ a ∈ es, a.isStarred = false := fun a ha =>
    Term.isStarred_of_isConstant (hes a ha)
  have hreads : Eval.Reads m (es.mapM (Eval.expr (Eval.hooks 1) p.env))
      (es.mapM Expr.constant) := by
    clear hargs hstarred
    induction es with
    | nil => exact .pure m _
    | cons e es ih =>
        obtain ⟨he, hes⟩ := List.forall_mem_cons.1 hes
        rw [List.mapM_cons, List.mapM_cons]
        exact (Eval.reads_constant hp rfl he).bind fun w => (ih hes).bind fun ws => .pure m _
  rw [hargs] at hreads
  have hcall := (h p 0 hp rfl hstarred hv hreads).symm.trans (h' p 0 hp rfl hstarred hv hreads)
  cases r <;> cases r' <;> simp_all [Except.map]

end Value

/-! ## Parts of a text -/

namespace Text

/-- A position brought between the ends of a text of `n` characters. -/
def clamp (n : Nat) (i : Int) : Nat := (max 0 (min (n : Int) i)).toNat

/-- A position brought between the ends of a text of `n` characters, counted from behind if it is
negative. -/
def clampFromEnd (n : Nat) (i : Int) : Nat := clamp n (if i < 0 then i + n else i)

/-- The characters of a text at the positions from one on and below another. -/
def between (s : List Char) (lo hi : Nat) : List Char :=
  (s.zipIdx.filter fun c => lo ≤ c.2 ∧ c.2 < hi).map Prod.fst

variable {s : List Char} {lo mid hi : Nat}

theorem between_eq (s : List Char) (lo hi : Nat) : between s lo hi = (s.take hi).drop lo := by
  -- the positions may be counted from any number on
  have hfrom (k : Nat) : ((s.zipIdx k).filter fun c => lo ≤ c.2 ∧ c.2 < hi).map Prod.fst =
      (s.take (hi - k)).drop (lo - k) := by
    induction s generalizing k with
    | nil => simp
    | cons c s ih =>
        rw [List.zipIdx_cons, List.filter_cons]
        specialize ih (k + 1)
        obtain hhi | ⟨n, hn⟩ : hi - k = 0 ∨ ∃ n, hi - k = n + 1 := by
          cases hi - k <;> simp
        · rw [if_neg (by simp; omega), ih, hhi, show hi - (k + 1) = 0 by omega]
          simp
        · rw [show hi - (k + 1) = n by omega] at ih
          rw [hn, List.take_succ_cons]
          obtain hlo | ⟨l, hl⟩ : lo - k = 0 ∨ ∃ l, lo - k = l + 1 := by
            cases lo - k <;> simp
          · rw [if_pos (by simp; omega), List.map_cons, ih, hlo, show lo - (k + 1) = 0 by omega,
              List.drop_zero, List.drop_zero]
          · rw [if_neg (by simp; omega), ih, hl, show lo - (k + 1) = l by omega,
              List.drop_succ_cons]
  exact hfrom 0

theorem between_append (s : List Char) (hlo : lo ≤ mid) (hhi : mid ≤ hi) :
    between s lo mid ++ between s mid hi = between s lo hi := by
  have hmid : s.take mid = (s.take hi).take mid := by rw [List.take_take, Nat.min_eq_left hhi]
  have hdrop : (s.take hi).drop mid = ((s.take hi).drop lo).drop (mid - lo) := by
    rw [List.drop_drop, Nat.add_sub_of_le hlo]
  rw [between_eq, between_eq, between_eq, hmid, List.drop_take, hdrop, List.take_append_drop]

/-- A text is cut in two at a position. -/
theorem between_append_rest (hmid : mid ≤ s.length) :
    between s 0 mid ++ between s mid s.length = s := by
  rw [between_append s (Nat.zero_le mid) hmid, between_eq, List.drop_zero, List.take_length]

/-- A single character is what is between a position and the next one. -/
theorem between_succ (s : List Char) (n : Nat) :
    between s (min n s.length) (min (n + 1) s.length) = s[n]?.toList := by
  rw [between_eq]
  by_cases hn : n < s.length
  · have hlength : (s.take n).length = n := List.length_take_of_le (Nat.le_of_lt hn)
    rw [Nat.min_eq_left (Nat.le_of_lt hn), Nat.min_eq_left hn, List.take_add_one,
      List.drop_left' hlength]
  · rw [List.getElem?_eq_none (Nat.not_lt.1 hn)]
    simp
    omega

theorem clamp_le (n : Nat) (i : Int) : clamp n i ≤ n := by
  rw [clamp]
  omega

theorem clamp_mono (n : Nat) {i j : Int} (h : i ≤ j) : clamp n i ≤ clamp n j := by
  rw [clamp, clamp]
  omega

theorem clamp_of_nonpos (n : Nat) {i : Int} (h : i ≤ 0) : clamp n i = 0 := by
  rw [clamp]
  omega

theorem clamp_natCast (n k : Nat) : clamp n k = min k n := by
  rw [clamp]
  omega

theorem clampFromEnd_of_nonneg (n : Nat) {i : Int} (h : 0 ≤ i) : clampFromEnd n i = clamp n i := by
  rw [clampFromEnd, if_neg (Int.not_lt.2 h)]

/-- The characters of a text between two positions, in whatever order these come. -/
def window (s : List Char) (i j : Int) : List Char :=
  between s (min (clamp s.length i) (clamp s.length j)) (max (clamp s.length i) (clamp s.length j))

theorem window_comm (s : List Char) (i j : Int) : window s i j = window s j i := by
  rw [window, window, Nat.min_comm, Nat.max_comm]

theorem window_of_le (s : List Char) {i j : Int} (h : i ≤ j) :
    window s i j = between s (clamp s.length i) (clamp s.length j) := by
  have hle := clamp_mono s.length h
  rw [window, Nat.min_eq_left hle, Nat.max_eq_right hle]

theorem window_zero (s : List Char) (i : Int) : window s 0 i = between s 0 (clamp s.length i) := by
  rw [window, clamp_of_nonpos _ (Int.le_refl 0), Nat.zero_min, Nat.zero_max]

theorem window_length (s : List Char) (i : Int) :
    window s i s.length = between s (clamp s.length i) s.length := by
  have hle := clamp_le s.length i
  rw [window, clamp_natCast, Nat.min_self, Nat.min_eq_left hle, Nat.max_eq_right hle]

end Text

namespace Value

open Text

variable {s : String}

/-- What a member of a text that is given positions takes from the text. -/
def Cuts (s : String) (name : String) (positions : List Int) (t : List Char) : Prop :=
  (Value.str s).Invokes name (positions.map .int) (.ok (ofChars t))

/-- Every integer is a constant of expressions. -/
theorem exists_constant_int (i : Int) : ∃ e : Expr, e.IsConstant ∧ e.constant = .ok (.int i) := by
  obtain ⟨n, rfl | rfl⟩ := Int.eq_nat_or_neg i
  · exact ⟨.literal (.int n), .literal _, rfl⟩
  · exact ⟨.unary .minus (.literal (.int n)), .unary _ (.literal _), rfl⟩

/-- What is taken from a text at positions is one text. -/
theorem Cuts.unique {name : String} {positions : List Int} {t u : List Char}
    (ht : Cuts s name positions t) (hu : Cuts s name positions u) : t = u := by
  -- There is a way to write the positions, and for one way to write them the call has one result.
  have hargs : ∃ es : List Expr, (∀ e ∈ es, e.IsConstant) ∧
      es.mapM Expr.constant = .ok (positions.map .int) := by
    clear ht hu
    induction positions with
    | nil => exact ⟨[], nofun, rfl⟩
    | cons i positions ih =>
        obtain ⟨e, he, hi⟩ := exists_constant_int i
        obtain ⟨es, hes, hpositions⟩ := ih
        refine ⟨e :: es, List.forall_mem_cons.2 ⟨he, hes⟩, ?_⟩
        rw [List.mapM_cons, hi, hpositions]
        rfl
  obtain ⟨es, hes, hpositions⟩ := hargs
  have hsame := Invokes.unique hes hpositions ht hu
  exact String.ofList_injective (by simpa [ofChars] using hsame)

/-! ## Members that take parts -/

theorem clamped_int (n : Nat) (i : Int) : (Value.int i).clamped n = .ok (clamp n i) := by
  have hclamp : min i.toNat n = clamp n i := by
    rw [clamp]
    omega
  rw [← hclamp]
  rfl

theorem cuts_substring (s : String) (i j : Int) :
    Cuts s "substring" [i, j] (window s.toList i j) := by
  refine invokes_of_callMember .substring rfl fun h => ?_
  show Eval.ofExcept (substring (.str s) (.int i) (.int j)) = _
  simp only [substring, textOr, clamped_int, window, between_eq]
  rfl

/-- Without a second position, the text is taken to its end. -/
theorem cuts_substring_rest (s : String) (i : Int) :
    Cuts s "substring" [i] (window s.toList i s.toList.length) := by
  refine invokes_of_callMember .substring rfl fun h => ?_
  show Eval.ofExcept (substring (.str s) (.int i) .none) = _
  simp only [substring, textOr, clamped_int, window, between_eq, clamp_natCast, Nat.min_self]
  rfl

theorem cuts_charAt (s : String) (i : Int) :
    Cuts s "charAt" [i] (window s.toList i (i + 1)) := by
  refine invokes_of_callMember .charAt rfl fun h => ?_
  show Eval.ofExcept (charAt (.str s) (.int i)) = _
  rw [window_of_le _ (by omega)]
  obtain hneg | ⟨n, rfl⟩ : i < 0 ∨ ∃ n : Nat, i = n := by
    cases i <;> simp
  · -- In front of the text the window is empty.
    have hnone : charAt (.str s) (.int i) = .ok (.str "") := if_pos hneg
    rw [hnone, clamp_of_nonpos _ (by omega), clamp_of_nonpos _ (by omega), between_eq]
    rfl
  · have hsome : charAt (.str s) (.int n) = .ok (ofChars s.toList[n]?.toList) := rfl
    have hnext := clamp_natCast s.toList.length (n + 1)
    rw [Int.natCast_succ] at hnext
    rw [hsome, clamp_natCast, hnext, between_succ]

theorem cuts_slice (s : String) (i j : Int) : Cuts s "slice" [i, j]
    (between s.toList (clampFromEnd s.toList.length i) (clampFromEnd s.toList.length j)) := by
  refine invokes_of_callMember .slice rfl fun h => ?_
  show Eval.ofExcept (sliceOf (.str s) (.int i) (.int j) .none) = _
  rw [between_eq]
  rfl

/-- Without a second position, the slice goes to the end of the text. -/
theorem cuts_slice_rest (s : String) (i : Int) : Cuts s "slice" [i]
    (between s.toList (clampFromEnd s.toList.length i) s.toList.length) := by
  refine invokes_of_callMember .slice rfl fun h => ?_
  show Eval.ofExcept (sliceOf (.str s) (.int i) .none .none) = _
  rw [between_eq]
  rfl

/-- **The members that take parts of a text agree.** Two positions in either order are the same,
what is taken is what stands between them, a text is cut in two at any position, a character is what
is between a position and the next one, and a slice at positions in order is what is between
them. -/
theorem cuts_agree (s : String) (i j : Int) :
    (Cuts s "substring" [i, j] (window s.toList i j) ∧
      Cuts s "substring" [j, i] (window s.toList i j)) ∧
    (∃ t u, Cuts s "substring" [0, i] t ∧ Cuts s "substring" [i] u ∧ t ++ u = s.toList) ∧
    (∃ t, Cuts s "charAt" [i] t ∧ Cuts s "substring" [i, i + 1] t) ∧
    (∃ t u, Cuts s "slice" [0, i] t ∧ Cuts s "slice" [i] u ∧ t ++ u = s.toList) ∧
    (0 ≤ i → i ≤ j → ∃ t, Cuts s "slice" [i, j] t ∧ Cuts s "substring" [i, j] t) := by
  refine ⟨⟨cuts_substring s i j, ?_⟩,
    ⟨_, _, cuts_substring s 0 i, cuts_substring_rest s i, ?_⟩,
    ⟨_, cuts_charAt s i, cuts_substring s i (i + 1)⟩,
    ⟨_, _, cuts_slice s 0 i, cuts_slice_rest s i, ?_⟩,
    fun hi hij => ⟨_, cuts_slice s i j, ?_⟩⟩
  · rw [window_comm]
    exact cuts_substring s j i
  · -- both windows end at the same position
    rw [window_zero, window_length]
    exact between_append_rest (clamp_le _ i)
  · rw [clampFromEnd_of_nonneg _ (Int.le_refl 0), clamp_of_nonpos _ (Int.le_refl 0)]
    exact between_append_rest (clamp_le _ _)
  · rw [clampFromEnd_of_nonneg _ hi, clampFromEnd_of_nonneg _ (by omega), ← window_of_le _ hij]
    exact cuts_substring s i j

/-- Past the end of a text a slice stops there, too. -/
theorem cuts_agree_past_end :
    ∃ t, Cuts "abc" "slice" [1, 7] t ∧ Cuts "abc" "substring" [1, 7] t :=
  (cuts_agree "abc" 1 7).2.2.2.2 (by decide) (by decide)

end Value

end Curly
