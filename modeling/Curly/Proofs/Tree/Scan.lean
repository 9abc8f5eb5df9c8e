import Curly.Proofs.Tree.Nesting

/-!
Structural errors are those of a machine that goes through the tokens once, from left to right, with
a stack of the blocks that are open. The parser reports what the machine stops at first: a token of
an unknown kind, a closer where no block is open, a closer of another kind than the innermost block,
or the end of the tokens inside of a block. In the last two cases it is the opener of the innermost
block that is blamed.

The parser notices a wrong closer only when the run of siblings inside of the block has come back to
it, so the two are compared by what is left: to go through all tokens with some blocks open is to go
through the siblings in front, and then through what they leave with the same blocks open
(`scan_eq_bind`).
-/

namespace Curly

namespace Parser

/-- What siblings leave begins with a closer. -/
theorem Parses.exists_closer {ts left : List Token} {ns : List Node} (h : Parses ts ns left) :
    ∀ c ∈ left.head?, ∃ kind, c.kind = .closer kind := by
  induction h with
  | nil => exact nofun
  | leaf _ _ ih => exact ih
  | block _ _ _ _ _ ih => exact ih
  | closer _ ht =>
      rintro c ⟨⟩
      exact ⟨_, ht⟩

end Parser

/-- A block that is open: its kind, and the token that opened it. -/
structure OpenBlock where
  kind : BlockKind
  opener : Token
  deriving DecidableEq

namespace OpenBlock

/-- What is reported of a block that is not closed. -/
def unclosed (b : OpenBlock) : StructureFailure := ⟨.unclosed b.kind, some b.opener⟩

/-- The blocks that are open after a token, innermost first. There are none if the token cannot
stand there. -/
def step (blocks : List OpenBlock) (t : Token) : Option (List OpenBlock) :=
  match t.kind with
  | .text | .variable | .raw => some blocks
  | .opener kind => some (⟨kind, t⟩ :: blocks)
  | .closer kind =>
    match blocks with
    | [] => none
    | b :: below => if b.kind = kind then some below else none
  | .other _ => none

/-- The blocks that are open after tokens that stand at the start of a template. -/
def after? (ts : List Token) : Option (List OpenBlock) := ts.foldlM step []

/-- What the machine stops at, and what is then reported: the blocks that are open, innermost first,
the tokens that are still to come, and the error. -/
inductive Stops : List OpenBlock → List Token → StructureFailure → Prop
  | unknown (blocks : List OpenBlock) {t : Token} {name : String} (ts : List Token)
      (ht : t.kind = .other name) : Stops blocks (t :: ts) ⟨.unknownKind name, some t⟩
  | unexpected {t : Token} {kind : BlockKind} (ts : List Token) (ht : t.kind = .closer kind) :
      Stops [] (t :: ts) ⟨.unexpected, some t⟩
  | mismatched {b : OpenBlock} (below : List OpenBlock) {t : Token} {kind : BlockKind}
      (ts : List Token) (ht : t.kind = .closer kind) (hne : b.kind ≠ kind) :
      Stops (b :: below) (t :: ts) b.unclosed
  | unclosed (b : OpenBlock) (below : List OpenBlock) : Stops (b :: below) [] b.unclosed

/-- The whole run of the machine, from some blocks that are open. -/
def scan (blocks : List OpenBlock) : List Token → Except StructureFailure Unit
  | [] =>
    match blocks with
    | [] => .ok ()
    | b :: _ => .error b.unclosed
  | t :: ts =>
    match t.kind with
    | .text | .variable | .raw => scan blocks ts
    | .opener kind => scan (⟨kind, t⟩ :: blocks) ts
    | .closer kind =>
      match blocks with
      | [] => .error ⟨.unexpected, some t⟩
      | b :: below => if b.kind = kind then scan below ts else .error b.unclosed
    | .other name => .error ⟨.unknownKind name, some t⟩

/-! ## Where a run stops -/

theorem step_leaf {t : Token} {n : Node} (h : t.leaf? = some n) (blocks : List OpenBlock) :
    step blocks t = some blocks := by
  obtain ⟨kind, value, place⟩ := t
  cases kind
  all_goals first
    | rfl
    | cases h

theorem scan_leaf {t : Token} {n : Node} (h : t.leaf? = some n) (blocks : List OpenBlock)
    (ts : List Token) : scan blocks (t :: ts) = scan blocks ts := by
  obtain ⟨kind, value, place⟩ := t
  cases kind
  all_goals first
    | rfl
    | cases h

/-- At a token that can stand where it stands, the machine goes on with the blocks that are then
open. -/
theorem scan_of_step {blocks blocks' : List OpenBlock} {t : Token} {ts : List Token}
    (h : step blocks t = some blocks') : scan blocks (t :: ts) = scan blocks' ts := by
  obtain ⟨n, hn⟩ | ⟨kind, hkind⟩ | ⟨kind, hkind⟩ | ⟨name, hkind⟩ := t.leaf_or_bracket
  · rw [step_leaf hn] at h
    cases h
    exact scan_leaf hn blocks ts
  · simp only [step, hkind] at h
    cases h
    simp only [scan, hkind]
  · simp only [step, hkind] at h
    cases blocks with
    | nil => cases h
    | cons b below =>
        -- the closer is that of the innermost block, or no blocks would be left
        dsimp only at h
        split at h
        · rename_i hsame
          cases h
          simp only [scan, hkind, if_pos hsame]
        · cases h
  · simp only [step, hkind] at h
    cases h

/-- The machine reports what it stops at. -/
theorem Stops.scan_eq {blocks : List OpenBlock} {ts : List Token} {e : StructureFailure}
    (h : Stops blocks ts e) : scan blocks ts = .error e := by
  cases h with
  | unknown _ _ ht => simp only [scan, ht]
  | unexpected _ ht => simp only [scan, ht]
  | mismatched _ _ ht hne => simp only [scan, ht, if_neg hne]
  | unclosed => rfl

/-- It does not stop at a token that can stand where it stands. -/
theorem Stops.step_eq_none {blocks : List OpenBlock} {t : Token} {ts : List Token}
    {e : StructureFailure} (h : Stops blocks (t :: ts) e) : step blocks t = none := by
  cases h with
  | unknown _ _ ht => simp only [step, ht]
  | unexpected _ ht => simp only [step, ht]
  | mismatched _ _ ht hne => simp only [step, ht, if_neg hne]

/-- At any other token it does. -/
theorem exists_stops_of_step {blocks : List OpenBlock} {t : Token} (ts : List Token)
    (h : step blocks t = none) : ∃ e, Stops blocks (t :: ts) e := by
  obtain ⟨n, hn⟩ | ⟨kind, hkind⟩ | ⟨kind, hkind⟩ | ⟨name, hkind⟩ := t.leaf_or_bracket
  · rw [step_leaf hn] at h
    cases h
  · simp only [step, hkind] at h
    cases h
  · cases blocks with
    | nil => exact ⟨_, .unexpected ts hkind⟩
    | cons b below =>
        have hne : b.kind ≠ kind := by
          intro hsame
          simp [step, hkind, hsame] at h
        exact ⟨_, .mismatched below ts hkind hne⟩
  · exact ⟨_, .unknown blocks ts hkind⟩

/-- A run reports what it stops at first: it goes through all tokens in front of that. -/
theorem scan_eq_error_iff {blocks : List OpenBlock} {ts : List Token} {e : StructureFailure} :
    scan blocks ts = .error e ↔ ∃ front back blocks', ts = front ++ back ∧
      front.foldlM step blocks = some blocks' ∧ Stops blocks' back e := by
  induction ts generalizing blocks with
  | nil =>
      constructor
      · intro he
        cases blocks with
        | nil => cases he
        | cons b below =>
            cases he
            exact ⟨[], [], _, rfl, rfl, .unclosed b below⟩
      · rintro ⟨front, back, blocks', hsplit, hfront, hstop⟩
        obtain ⟨rfl, rfl⟩ := List.append_eq_nil_iff.1 hsplit.symm
        cases hfront
        cases hstop
        rfl
  | cons t ts ih =>
      cases hstep : step blocks t with
      | none =>
          constructor
          · intro he
            obtain ⟨e', hstop⟩ := exists_stops_of_step ts hstep
            rw [hstop.scan_eq] at he
            cases he
            exact ⟨[], t :: ts, blocks, rfl, rfl, hstop⟩
          · rintro ⟨front, back, blocks', hsplit, hfront, hstop⟩
            cases front with
            | nil =>
                cases hsplit
                cases hfront
                exact hstop.scan_eq
            | cons u front =>
                -- the machine cannot have gone past this token
                cases hsplit
                simp [List.foldlM_cons, hstep] at hfront
      | some next =>
          rw [scan_of_step hstep, ih]
          constructor
          · rintro ⟨front, back, blocks', rfl, hfront, hstop⟩
            refine ⟨t :: front, back, blocks', rfl, ?_, hstop⟩
            simpa [List.foldlM_cons, hstep] using hfront
          · rintro ⟨front, back, blocks', hsplit, hfront, hstop⟩
            cases front with
            | nil =>
                -- the machine does not stop at a token that can stand there
                cases hsplit
                cases hfront
                rw [hstop.step_eq_none] at hstep
                cases hstep
            | cons u front =>
                cases hsplit
                refine ⟨front, back, blocks', rfl, ?_, hstop⟩
                simpa [List.foldlM_cons, hstep] using hfront

/-! ## The machine and the parser -/

/-- To go through tokens is to go through the siblings in front of them, and then through what these
leave with the same blocks open. -/
theorem scan_eq_bind (blocks : List OpenBlock) : (ts : List Token) →
    scan blocks ts = (Parser.parse ts).bind fun r => scan blocks r.2
  | [] => by
      rw [Parser.parse_nil]
      rfl
  | t :: rest => by
      obtain ⟨n, hn⟩ | ⟨kind, hkind⟩ | ⟨kind, hkind⟩ | ⟨name, hkind⟩ := t.leaf_or_bracket
      · rw [scan_leaf hn, scan_eq_bind blocks rest, Parser.parse_leaf hn]
        cases Parser.parse rest <;> rfl
      · have hstep : step blocks t = some (⟨kind, t⟩ :: blocks) := by
          simp only [step, hkind]
        rw [scan_of_step hstep, scan_eq_bind (⟨kind, t⟩ :: blocks) rest, Parser.parse_opener hkind]
        cases hr : Parser.parse rest with
        | error e => rfl
        | ok r =>
            obtain ⟨inner, closing⟩ := r
            cases closing with
            | nil => rfl
            | cons c after =>
                have hinner := Parser.parses_of_parse rest hr
                obtain ⟨kind', hc⟩ := hinner.exists_closer c rfl
                have hlt := hinner.length_lt
                simp only [Except.bind, scan, hc, TokenKind.closer.injEq]
                by_cases hsame : kind = kind'
                · -- the block is closed, and both go on behind it
                  rw [if_pos hsame, if_pos hsame.symm, scan_eq_bind blocks after]
                  cases Parser.parse after <;> rfl
                · rw [if_neg hsame, if_neg (Ne.symm hsame)]
                  rfl
      · rw [Parser.parse_closer hkind]
        rfl
      · rw [Parser.parse_other hkind]
        simp only [scan, hkind]
        rfl
termination_by ts => ts.length

end OpenBlock

open OpenBlock

/-- The parser succeeds if the machine comes to the end, and reports what the machine reports. -/
theorem Tree.ofTokens_map_eq_scan (ts : List Token) :
    (Tree.ofTokens ts).map (fun _ => ()) = scan [] ts := by
  rw [scan_eq_bind, Tree.ofTokens_eq_parse]
  cases hr : Parser.parse ts with
  | error e => rfl
  | ok r =>
      obtain ⟨ns, left⟩ := r
      cases left with
      | nil => rfl
      | cons c after =>
          obtain ⟨kind, hc⟩ := (Parser.parses_of_parse ts hr).exists_closer c rfl
          simp only [Except.bind, scan, hc]
          rfl

/-- **Structural errors are those of a machine that goes through the tokens once.** A list of tokens
is refused exactly if the machine, which opens a block at an opener and closes the innermost one at
a closer of its kind, comes to a token that cannot stand there or to the end inside of a block; and
the error is the one of the first place where it does. -/
theorem Tree.ofTokens_eq_error_iff_stops {ts : List Token} {e : StructureFailure} :
    Tree.ofTokens ts = .error e ↔
      ∃ front back blocks, ts = front ++ back ∧ after? front = some blocks ∧
        Stops blocks back e := by
  have hscan : Tree.ofTokens ts = .error e ↔ scan [] ts = .error e := by
    rw [← Tree.ofTokens_map_eq_scan, Except.map_eq_error_iff]
  rw [hscan, scan_eq_error_iff]
  rfl

end Curly
