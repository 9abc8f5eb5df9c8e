import Curly.Program.Compilation
import Curly.Proofs.Expr.Chain
import Curly.Proofs.Term.Path

/-!
Paths and chains of members as accesses. A path is looked up, or resolved and read member by member;
in parentheses it is always the latter. Where every name but the last stands for a dictionary that
holds the next one, both come to the same value, whatever the names are.
-/

namespace Curly

open Form Lexeme
open Text (dotted)

namespace Value

/-- Where keys lead to from the entries of a dictionary: from dictionary to dictionary, each holding
the next key. -/
inductive Leads : List (Value × Value) → List String → Value → Prop
  | last {entries : List (Value × Value)} {key : String} {v : Value}
      (h : field? key entries = some v) : Leads entries [key] v
  | step {entries inside : List (Value × Value)} {key : String} {keys : List String} {v : Value}
      (h : field? key entries = some (.dict inside)) (hrest : Leads inside keys v) :
      Leads entries (key :: keys) v

variable {entries : List (Value × Value)} {keys : List String} {v : Value}

/-- Following keys goes where they lead to. -/
theorem Leads.follow_eq (h : Leads entries keys v) : (dict entries).follow keys = .ok v := by
  induction h with
  | @last entries key v h =>
      show ((field? key entries).getD .none).follow [] = _
      rw [h]
      rfl
  | @step entries inside key keys v h _ ih =>
      show ((field? key entries).getD .none).follow keys = _
      rw [h]
      exact ih

end Value

namespace Eval

variable {p : Program} {m : Machine} {entries : List (Value × Value)} {keys : List String}
variable {v : Value} {d : Nat}

/-- A member is read from the value of what it is a member of. -/
theorem reads_member (hp : p.HasOwnNames) {e : Expr} {w : Value} (he : e.isStarred = false)
    (h : Reads m (expr (hooks (d + 1)) p.env e) (.ok w)) (key : String) :
    Reads m (expr (hooks (d + 1)) p.env (e.member key)) (w.readMember key) := by
  have hkey : Reads m (expr (hooks (d + 1)) p.env (.str key)) (.ok (.str key)) := by
    rw [Expr.str, expr]
    exact .pure m _
  exact reads_helper hp he rfl .member h hkey

/-- What the data have under a name is read from them. -/
theorem reads_resolve (hp : p.HasOwnNames) {context : Value}
    (hcontext : m.valueOf Program.mainFrame contextName = some context) (id : String) :
    Reads m (expr (hooks (d + 1)) p.env (.resolve id)) (.ok (context.resolve id)) := by
  have hinner : ∀ b ∈ ([] : List Binder), Helper.resolve.name ∉ b.names ∧ contextName ∉ b.names :=
    nofun
  exact expr_resolve hp _ id hinner hcontext

/-- Members of a dictionary are what their names lead to. -/
theorem reads_members (hp : p.HasOwnNames) (h : Value.Leads entries keys v) {e : Expr}
    (he : e.isStarred = false)
    (hdict : Reads m (expr (hooks (d + 1)) p.env e) (.ok (.dict entries))) :
    Reads m (expr (hooks (d + 1)) p.env (e.members keys)) (.ok v) := by
  induction h generalizing e with
  | @last entries key v h =>
      have hmember := reads_member hp he hdict key
      rwa [Value.readMember, h] at hmember
  | @step entries inside key keys v h _ ih =>
      have hmember := reads_member hp he hdict key
      rw [Value.readMember, h] at hmember
      exact ih rfl hmember

/-- A chain of members is what its names lead to in the data. -/
theorem reads_chain (hp : p.HasOwnNames) {id : String} (h : Value.Leads entries (id :: keys) v)
    (hcontext : m.valueOf Program.mainFrame contextName = some (.dict entries)) :
    Reads m (expr (hooks (d + 1)) p.env ((Expr.resolve id).members keys)) (.ok v) := by
  have hfirst := reads_resolve (d := d) hp hcontext id
  cases h with
  | last h => rwa [Value.resolve, h] at hfirst
  | step h hrest =>
      rw [Value.resolve, h] at hfirst
      exact reads_members hp hrest rfl hfirst

end Eval

namespace Term

open Text Shorthand

variable {w : List Char} {ws : List (List Char)} {scope : Scope}

/-! ## Reading in parentheses -/

theorem strip_enclosed (s : List Char) : strip ('(' :: (s ++ [')'])) = '(' :: (s ++ [')']) := by
  refine strip_eq_self_iff.2 ⟨fun c hc => ?_, fun c hc => ?_⟩
  · cases hc
    decide
  · rw [← List.cons_append, List.getLast?_append] at hc
    cases hc
    decide

/-- A path in parentheses holds no shorthand. -/
theorem codeOf_enclosed (hw : isSegment w = true) (hws : ∀ v ∈ ws, isSegment v = true) :
    codeOf scope ('(' :: (dotted w ws ++ [')'])) = '(' :: (dotted w ws ++ [')']) := by
  have hnot {c : Char} (hc : Lexeme.isDottedChar c = false) (hopen : c ≠ '(') (hclose : c ≠ ')') :
      c ∉ '(' :: (dotted w ws ++ [')']) := by
    simp [hopen, hclose, Lexeme.not_mem_dotted hw hws hc]
  have hindex : ¬"@index".toList <:+: '(' :: (dotted w ws ++ [')']) := fun h =>
    hnot (c := '@') (by decide) (by decide) (by decide) (h.subset (by decide))
  rw [codeOf, replaceIndex_eq_self hindex,
    replaceArrows_eq_self (hnot (by decide) (by decide) (by decide)), strip_enclosed]

/-- A name that stands in a path and in an expression alike: a word in ASCII that is not
reserved. -/
def IsName (v : List Char) : Prop := isPlainWord v = true ∧ Parse.isReserved v = false

instance (v : List Char) : Decidable (IsName v) := inferInstanceAs (Decidable (_ ∧ _))

theorem IsName.isSegment {v : List Char} (hv : IsName v) : isSegment v = true := by
  have hplain := hv.1
  cases v with
  | nil => cases hplain
  | cons c v =>
      rw [isPlainWord, Bool.and_eq_true, Bool.and_eq_true, Bool.not_eq_true', isPlainChar,
        Char.isAlphanum, List.all_eq_true] at hplain
      obtain ⟨⟨hc, hdigit⟩, hrest⟩ := hplain
      rw [Form.isSegment, Bool.and_eq_true, List.all_eq_true]
      refine ⟨?_, fun d hd => ?_⟩
      · simpa [startsName, hdigit] using Or.inl hc
      · have hd := hrest d hd
        rw [isPlainChar] at hd
        rw [hd, Bool.true_or]

theorem areSegments (hnames : ∀ v ∈ w :: ws, IsName v) :
    isSegment w = true ∧ ∀ v ∈ ws, isSegment v = true :=
  List.forall_mem_cons.1 fun v hv => (hnames v hv).isSegment

theorem IsName.not_mem {v : List Char} (hv : IsName v) : '$' ∉ v :=
  fun hmem => absurd (isPlainChar_of_mem hv.1 _ hmem) (by decide)

/-- What a path of names comes to as an expression. -/
def chain (w : List Char) (ws : List (List Char)) : Expr :=
  (Expr.resolve (String.ofList w)).members (ws.map String.ofList)

/-- A text that writes the attributes of a name is read as a chain of members. -/
theorem readComplex_of_attributes {s : List Char} {ls : List Lexeme} (hthis : w ≠ "this".toList)
    (hcode : codeOf [] s = s)
    (hparse : Expr.ofText? s = some (Parse.attributes (.name (String.ofList w)) ws))
    (hs : Lexeme.ofText s = some ls) (hnumber : ∀ n, Lexeme.number (.int n) ∉ ls) :
    readComplex [] s = .ok (.complex (String.ofList s) (chain w ws)) := by
  have hid : String.ofList w ≠ "this" := fun h => hthis (String.ofList_injective h)
  rw [codeOf] at hcode
  rw [readComplex, hcode, hparse, hasLongInteger_of_not_mem hs hnumber]
  dsimp only
  rw [if_neg Bool.false_ne_true]
  exact congrArg (Except.ok ∘ complex (String.ofList s)) (Expr.redirect_attributes hid ws)

/-- A path of names is looked up or read as a chain of members; in parentheses, it is a chain. -/
theorem readAccess_names (hnames : ∀ v ∈ w :: ws, IsName v) (hthis : w ≠ "this".toList) :
    readAccess [] (dotted w ws) =
        .ok (if ws.any namesMethod then .complex (String.ofList (dotted w ws)) (chain w ws)
          else .path contextName (String.ofList (dotted w ws))) ∧
      readAccess [] ('(' :: (dotted w ws ++ [')'])) =
        .ok (.complex (String.ofList ('(' :: (dotted w ws ++ [')']))) (chain w ws)) := by
  -- names are segments of a path, and attributes for the parser as well: no dollar, no reserved
  -- word
  have hdollar : ∀ v ∈ w :: ws, '$' ∉ v := fun v hv => (hnames v hv).not_mem
  have hreserved : ∀ v ∈ w :: ws, Parse.isReserved v = false := fun v hv => (hnames v hv).2
  obtain ⟨hw, hws⟩ := areSegments hnames
  constructor
  · have hparse := Expr.ofText?_dotted hw hws hdollar
    rw [Parse.dotted?_of_not hreserved] at hparse
    rw [readAccess_dotted_eq hw hws, ofPath.eq_def, if_neg hthis,
      readComplex_of_attributes hthis (codeOf_dotted hw hws) hparse
        (Lexeme.ofText_dotted hw hws hdollar) fun n => number_not_mem_dotted w ws _]
    cases ws.any namesMethod <;> rfl
  · -- there is no number in the code, and so none that is too long
    have hnumber (n : Nat) : Lexeme.number (.int n) ∉
        Lexeme.op "(" :: (Lexeme.ofWord w :: (Lexeme.ofDots ws ++ [.op ")"])) := by
      have hmem := number_not_mem_dotted w ws (.int n)
      simp only [List.mem_cons, not_or] at hmem
      simp [hmem]
    have hcomplex := readComplex_of_attributes hthis (codeOf_enclosed hw hws)
      (Expr.ofText?_enclosed hw hws hdollar hreserved) (Lexeme.ofText_enclosed hw hws hdollar)
      hnumber
    rw [readAccess, strip_enclosed]
    dsimp only
    have hsign : isComplex ('(' :: (dotted w ws ++ [')'])) = true := rfl
    rw [if_neg (by simp), if_neg (by simp), if_pos hsign, hcomplex]

/-! ## What is shown -/

/-- Whether a term stands for a value of the data in every program: it is valid, its code opens at
most so many brackets, it assigns nothing, and it comes to the value. -/
structure Shows (t : Term) (context v : Value) (depth : Nat) : Prop where
  isValid : t.isValid = true
  passes : Passes depth t.code
  isStarred : t.expr.isStarred = false
  assigned : t.expr.assigned = []
  reads : ∀ {p : Program} {m : Machine} {d : Nat}, p.HasOwnNames →
    m.valueOf Program.mainFrame contextName = some context →
    Eval.Reads m (Eval.expr (Eval.hooks (d + 1)) p.env t.expr) (.ok v)

variable {entries : List (Value × Value)} {v : Value}

theorem Shows.mono {t : Term} {context : Value} {depth d : Nat} (h : t.Shows context v d)
    (hd : d ≤ depth) : t.Shows context v depth :=
  { h with passes := h.passes.mono hd }

/-- A path that is looked up shows what its names lead to. -/
theorem shows_path (hw : isSegment w = true) (hws : ∀ v ∈ ws, isSegment v = true)
    (h : Value.Leads entries ((w :: ws).map String.ofList) v) :
    Shows (.path contextName (String.ofList (dotted w ws))) (.dict entries) v 1 where
  isValid := rfl
  passes := by
    refine passes_call (isPlainWord_helper .lookup) ?_
    simpa using ⟨passes_word (by decide), passes_ofString _⟩
  isStarred := rfl
  assigned := by simp [expr, call, Expr.apply, Expr.str, Expr.assigned, assignedOfArguments]
  reads := by
    intro p m d hp hcontext
    have hbase : Eval.Reads m (Eval.expr (Eval.hooks (d + 1)) p.env (.name contextName))
        (.ok (.dict entries)) := by
      rw [Eval.expr]
      exact Eval.load_of_mem_varNames (by simp [Program.varNames]) hcontext (by decide)
    have hpath : Eval.Reads m
        (Eval.expr (Eval.hooks (d + 1)) p.env (.str (String.ofList (dotted w ws))))
        (.ok (.str (String.ofList (dotted w ws)))) := by
      rw [Expr.str, Eval.expr]
      exact .pure m _
    -- the text is split at its dots into the names that it was joined from
    have hlookup : (Value.dict entries).lookup (String.ofList (dotted w ws)) = .ok v := by
      have hkeys : Value.pathKeys (String.ofList (dotted w ws)) = (w :: ws).map String.ofList := by
        rw [Value.pathKeys, String.toList_ofList, splitAll,
          splitOn_dotted hw hws (length_le_dotted w ws)]
      have hne : (String.ofList (dotted w ws)).isEmpty = false := by
        simpa using dotted_ne_nil hw
      rw [Value.lookup, hne, hkeys]
      exact h.follow_eq
    have hreads := Eval.reads_helper hp rfl rfl .lookup hbase hpath
    rw [← hlookup]
    exact hreads

/-- A chain of members shows what its names lead to. -/
theorem shows_chain (source : String) (h : Value.Leads entries ((w :: ws).map String.ofList) v) :
    Shows (.complex source (chain w ws)) (.dict entries) v (ws.length + 2) where
  isValid := Expr.isValid_members rfl _
  passes := by
    have hbody := Expr.passes_members (Expr.passes_resolve (String.ofList w)) (ws.map String.ofList)
    rw [List.length_map] at hbody
    exact passes_parens hbody
  isStarred := Expr.isStarred_members rfl _
  assigned := by
    refine Expr.assigned_members ?_ _
    simp [Expr.resolve, Expr.apply, Expr.str, Expr.assigned, assignedOfArguments]
  reads := fun hp hcontext => Eval.reads_chain hp h hcontext

/-- A chain of members needs two brackets more than it has members. -/
theorem needs_chain (source : String) (w : List Char) (ws : List (List Char)) :
    Needs (ws.length + 2) (complex source (chain w ws)).code := by
  have hbody := Expr.needs_members (Expr.needs_resolve (String.ofList w)) (ws.map String.ofList)
  rw [List.length_map] at hbody
  exact needs_parens hbody

/-- **A path of names and the chain of members in parentheses show the same value**: that to which
the names lead in the data. -/
theorem exists_shows (hnames : ∀ v ∈ w :: ws, IsName v) (hthis : w ≠ "this".toList)
    (h : Value.Leads entries ((w :: ws).map String.ofList) v) :
    ∀ s ∈ [dotted w ws, '(' :: (dotted w ws ++ [')'])],
      ∃ t, readAccess [] s = .ok t ∧ t.Shows (.dict entries) v (ws.length + 2) := by
  obtain ⟨hpath, hchain⟩ := readAccess_names hnames hthis
  obtain ⟨hw, hws⟩ := areSegments hnames
  simp only [List.forall_mem_cons, List.not_mem_nil, false_imp_iff, implies_true, and_true]
  refine ⟨⟨_, hpath, ?_⟩, _, hchain, shows_chain _ h⟩
  -- a known method behind a dot makes a chain of the path, too
  cases ws.any namesMethod with
  | true => exact shows_chain _ h
  | false => exact (shows_path hw hws h).mono (by omega)

end Term

end Curly
