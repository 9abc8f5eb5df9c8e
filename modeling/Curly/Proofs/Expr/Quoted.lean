import Curly.Expr.Lexer
import Curly.Text.Quoted
import Mathlib.Algebra.Group.Nat.Defs

/-!
A quoted text reads back: in the expression language it is one string, and this string is the text.
Every character is written so that the lexer takes it for no end of the string, and so that what is
written for it stands for it again. What is behind a string changes nothing about it.
-/

namespace Curly

namespace Text.Quoted

/-! ## Hexadecimal digits -/

theorem hex_succ (width n : Nat) :
    hex (width + 2) n = hex (width + 1) (n / 16) ++ [(n % 16).digitChar] := by
  obtain hlt | hle := Nat.lt_or_ge n 16
  · have hdiv : n / 16 = 0 := Nat.div_eq_of_lt hlt
    rw [hex, hex, Nat.toDigits_of_lt_base hlt, hdiv, Nat.toDigits_zero, Nat.mod_eq_of_lt hlt]
    show List.replicate (width + 1) '0' ++ [n.digitChar] =
      (List.replicate width '0' ++ ['0']) ++ [n.digitChar]
    rw [List.replicate_succ']
  · rw [hex, hex, Nat.toDigits_of_base_le (by decide) hle]
    have hlength : width + 2 - ((Nat.toDigits 16 (n / 16)).length + 1) =
        width + 1 - (Nat.toDigits 16 (n / 16)).length := by omega
    rw [List.length_append, List.length_singleton, hlength, List.append_assoc]

theorem hexValue_digitChar : ∀ d < 16, Unicode.hexValue d.digitChar = d := by decide

theorem isHex_digitChar : ∀ d < 16, (d.digitChar.isDigit ||
    ('a' ≤ d.digitChar.toLower && d.digitChar.toLower ≤ 'f')) = true := by decide

/-- A number that fits into so many digits is written in so many. -/
theorem length_hex {width n : Nat} (h : n < 16 ^ (width + 1)) :
    (hex (width + 1) n).length = width + 1 := by
  have hle := (Nat.length_toDigits_le_iff (by decide) (Nat.succ_pos width)).2 h
  rw [hex, List.length_append, List.length_replicate]
  omega

theorem valueInBase_hex (width n : Nat) (h : n < 16 ^ (width + 1)) :
    Lexeme.valueInBase 16 (hex (width + 1) n) = n := by
  induction width generalizing n with
  | zero =>
      have hlt : n < 16 := by simpa using h
      rw [hex, Nat.toDigits_of_lt_base hlt]
      simp [Lexeme.valueInBase, hexValue_digitChar n hlt]
  | succ width ih =>
      have hdiv : n / 16 < 16 ^ (width + 1) := Nat.div_lt_of_lt_mul (Nat.pow_succ' ▸ h)
      have hmod : n % 16 < 16 := Nat.mod_lt n (by decide)
      have ih := ih (n / 16) hdiv
      rw [hex_succ, Lexeme.valueInBase, List.foldl_append]
      rw [Lexeme.valueInBase] at ih
      rw [ih, List.foldl_cons, List.foldl_nil, hexValue_digitChar _ hmod]
      omega

theorem exists_of_mem_hex {width n : Nat} (h : n < 16 ^ (width + 1)) {c : Char}
    (hc : c ∈ hex (width + 1) n) : ∃ d < 16, c = d.digitChar := by
  induction width generalizing n with
  | zero =>
      have hlt : n < 16 := by simpa using h
      rw [hex, Nat.toDigits_of_lt_base hlt] at hc
      exact ⟨n, hlt, by simpa using hc⟩
  | succ width ih =>
      have hdiv : n / 16 < 16 ^ (width + 1) := Nat.div_lt_of_lt_mul (Nat.pow_succ' ▸ h)
      rw [hex_succ, List.mem_append, List.mem_singleton] at hc
      obtain hc | rfl := hc
      · exact ih hdiv hc
      · exact ⟨_, Nat.mod_lt n (by decide), rfl⟩

/-- A quote, of either kind. -/
theorem quoteFor_eq (s : List Char) : quoteFor s = '\'' ∨ quoteFor s = '"' := by
  rw [quoteFor]
  split
  · exact .inr rfl
  · exact .inl rfl

end Text.Quoted

namespace Lexeme

open Text.Quoted

variable {quote : Char}

theorem ne_of_quote (hquote : quote = '\'' ∨ quote = '"') {c : Char} (hc : c ≠ '\'' ∧ c ≠ '"') :
    c ≠ quote := by
  obtain rfl | rfl := hquote
  · exact hc.1
  · exact hc.2

/-! ## Where a string ends -/

/-- A character that is taken as it is between quotes. -/
def IsInner (quote c : Char) : Prop := c ≠ quote ∧ c ≠ '\\' ∧ c ≠ '\n'

theorem quoted?_cons {c : Char} (hc : IsInner quote c) (s : List Char) :
    quoted? quote false (c :: s) =
      (quoted? quote false s).map fun (body, rest) => (c :: body, rest) := by
  obtain ⟨hquote, hslash, hline⟩ := hc
  rw [quoted?]
  · simp [hquote, hline]
  · simpa using hslash

theorem quoted?_append {l : List Char} (hl : ∀ c ∈ l, IsInner quote c) (s : List Char) :
    quoted? quote false (l ++ s) =
      (quoted? quote false s).map fun (body, rest) => (l ++ body, rest) := by
  induction l with
  | nil => simp
  | cons c l ih =>
      obtain ⟨hc, hl⟩ := List.forall_mem_cons.1 hl
      rw [List.cons_append, quoted?_cons hc, ih hl]
      simp [Function.comp_def]

theorem quoted?_escape {triple : Bool} (c : Char) (s : List Char) :
    quoted? quote triple ('\\' :: c :: s) =
      (quoted? quote triple s).map fun (body, rest) => ('\\' :: c :: body, rest) := by
  rw [quoted?]

theorem isInner_digitChar (hquote : quote = '\'' ∨ quote = '"') :
    ∀ d < 16, IsInner quote d.digitChar := by
  obtain rfl | rfl := hquote
  · unfold IsInner
    decide
  · unfold IsInner
    decide

/-- A character by its code point: a mark that tells the width, and the digits. -/
theorem exists_byCode (c : Char) : ∃ mark width,
    byCode c = '\\' :: mark :: hex (width + 1) c.toNat ∧
    (mark = 'x' ∧ width = 1 ∨ mark = 'u' ∧ width = 3 ∨ mark = 'U' ∧ width = 7) ∧
    c.toNat < 16 ^ (width + 1) := by
  -- Eight digits are enough for every code point.
  have hvalid : c.toNat < 0x110000 := by
    have hc := c.valid
    simp only [UInt32.isValidChar, Nat.isValidChar] at hc
    simp only [Char.toNat]
    omega
  rw [byCode]
  split
  · rename_i h
    exact ⟨'x', 1, rfl, .inl ⟨rfl, rfl⟩, h⟩
  · split
    · rename_i h
      exact ⟨'u', 3, rfl, .inr (.inl ⟨rfl, rfl⟩), h⟩
    · exact ⟨'U', 7, rfl, .inr (.inr ⟨rfl, rfl⟩), by omega⟩

/-- How a character is written between quotes. -/
theorem encodeChar_cases (quote c : Char) :
    (∃ d, encodeChar quote c = ['\\', d] ∧
      (d = c ∧ (c = quote ∨ c = '\\') ∨ (d, c) ∈ [('t', '\t'), ('n', '\n'), ('r', '\r')])) ∨
    (encodeChar quote c = [c] ∧ IsInner quote c ∧ c ≠ '\r') ∨ encodeChar quote c = byCode c := by
  -- quotes and backslashes, the blanks with letters of their own, what is printed, and all else
  rw [encodeChar]
  split
  · rename_i h
    rw [Bool.or_eq_true, beq_iff_eq, beq_iff_eq] at h
    exact .inl ⟨c, rfl, .inl ⟨rfl, h⟩⟩
  rename_i hplain
  split
  · rename_i h
    exact .inl ⟨'t', rfl, .inr (by simpa using h)⟩
  split
  · rename_i h
    exact .inl ⟨'n', rfl, .inr (by simpa using h)⟩
  rename_i hline
  split
  · rename_i h
    exact .inl ⟨'r', rfl, .inr (by simpa using h)⟩
  rename_i hreturn
  split
  · rw [Bool.or_eq_true, beq_iff_eq, beq_iff_eq, not_or] at hplain
    exact .inr (.inl ⟨rfl, ⟨hplain.1, hplain.2, by simpa using hline⟩, by simpa using hreturn⟩)
  · exact .inr (.inr rfl)

theorem quoted?_encodeChar (hquote : quote = '\'' ∨ quote = '"') (c : Char) (s : List Char) :
    quoted? quote false (encodeChar quote c ++ s) =
      (quoted? quote false s).map fun (body, rest) => (encodeChar quote c ++ body, rest) := by
  obtain ⟨d, hd, -⟩ | ⟨hd, hc, -⟩ | hd := encodeChar_cases quote c
  · rw [hd]
    exact quoted?_escape d s
  · rw [hd]
    exact quoted?_cons hc s
  · -- By its code: digits neither close the text nor escape anything.
    obtain ⟨mark, width, hcode, -, hlt⟩ := exists_byCode c
    have hdigits : ∀ d ∈ hex (width + 1) c.toNat, IsInner quote d := by
      intro d hd
      obtain ⟨k, hk, rfl⟩ := exists_of_mem_hex hlt hd
      exact isInner_digitChar hquote k hk
    rw [hd, hcode]
    simp only [List.cons_append]
    rw [quoted?_escape, quoted?_append hdigits, Option.map_map]
    rfl

/-- The string ends where the text does. -/
theorem quoted?_flatMap (hquote : quote = '\'' ∨ quote = '"') (s rest : List Char) :
    quoted? quote false (s.flatMap (encodeChar quote) ++ quote :: rest) =
      some (s.flatMap (encodeChar quote), rest) := by
  induction s with
  | nil =>
      obtain rfl | rfl := hquote
      · simp [quoted?]
      · simp [quoted?]
  | cons c s ih =>
      rw [List.flatMap_cons, List.append_assoc, quoted?_encodeChar hquote, ih]
      rfl

/-! ## What a string stands for -/

theorem unescape?_skip (skip : Nat) (l s : List Char) (hl : l.length = skip) :
    unescape? false skip (l ++ s) = unescape? false 0 s := by
  induction l generalizing skip with
  | nil =>
      cases hl
      rfl
  | cons c l ih =>
      cases hl
      exact ih l.length rfl

theorem hexEscape?_hex {width : Nat} {c : Char} (h : c.toNat < 16 ^ (width + 1)) (s : List Char) :
    hexEscape? (width + 1) (hex (width + 1) c.toNat ++ s) = some c := by
  have htake : (hex (width + 1) c.toNat ++ s).take (width + 1) = hex (width + 1) c.toNat := by
    rw [List.take_append_of_le_length (Nat.le_of_eq (length_hex h).symm),
      List.take_of_length_le (Nat.le_of_eq (length_hex h))]
  have hdigits : (hex (width + 1) c.toNat).all (fun d => d.isDigit ||
      ('a' ≤ d.toLower && d.toLower ≤ 'f')) = true := by
    refine List.all_eq_true.2 fun d hd => ?_
    obtain ⟨k, hk, rfl⟩ := exists_of_mem_hex h hd
    exact isHex_digitChar k hk
  have hvalid : c.toNat.isValidChar := c.valid
  rw [hexEscape?]
  simp only [htake, length_hex h, valueInBase_hex width _ h, hdigits, hvalid, Char.ofNat_toNat]
  simp

/-- The escape of a character by its code point stands for the character. -/
theorem unescape?_byCode (c : Char) (s : List Char) :
    unescape? false 0 (byCode c ++ s) = (unescape? false 0 s).map (c :: ·) := by
  obtain ⟨mark, width, hcode, hmark, hlt⟩ := exists_byCode c
  have hescape : escape? false (mark :: (hex (width + 1) c.toNat ++ s)) =
      some ([c], width + 2) := by
    have hhex := hexEscape?_hex hlt s
    obtain ⟨rfl, rfl⟩ | ⟨rfl, rfl⟩ | ⟨rfl, rfl⟩ := hmark
    · simp [escape?, simpleEscape?, hhex]
    · simp [escape?, simpleEscape?, hhex]
    · simp [escape?, simpleEscape?, hhex]
  -- an escape is as long as its digits and its mark, and the reader skips so many characters
  have hskip : unescape? false (width + 2) (mark :: (hex (width + 1) c.toNat ++ s)) =
      unescape? false 0 s := unescape?_skip (width + 1) _ s (length_hex hlt)
  rw [hcode]
  simp only [List.cons_append]
  rw [unescape?, hescape]
  simp only [Option.bind_eq_bind, Option.bind_some]
  rw [hskip]
  cases unescape? false 0 s <;> rfl

/-- What is written for a character stands for it. -/
theorem unescape?_encodeChar (hquote : quote = '\'' ∨ quote = '"') (c : Char) (s : List Char) :
    unescape? false 0 (encodeChar quote c ++ s) = (unescape? false 0 s).map (c :: ·) := by
  obtain ⟨d, hd, hc⟩ | ⟨hd, hc, -⟩ | hd := encodeChar_cases quote c
  · -- a letter behind a backslash
    have hescape : escape? false (d :: s) = some ([c], 1) := by
      obtain ⟨rfl, hc⟩ | hc := hc
      · have hd : d = '\'' ∨ d = '"' ∨ d = '\\' := by
          obtain rfl | rfl := hquote
          · exact hc.imp_right .inr
          · exact .inr hc
        obtain rfl | rfl | rfl := hd
        all_goals rfl
      · simp only [List.mem_cons, List.not_mem_nil, or_false, Prod.mk.injEq] at hc
        obtain ⟨rfl, rfl⟩ | ⟨rfl, rfl⟩ | ⟨rfl, rfl⟩ := hc
        all_goals rfl
    rw [hd]
    simp only [List.cons_append, List.nil_append]
    rw [unescape?, hescape]
    simp only [Option.bind_eq_bind, Option.bind_some]
    show ((unescape? false 0 s).bind fun rest => some ([c] ++ rest)) = _
    cases unescape? false 0 s <;> rfl
  · rw [hd]
    show unescape? false 0 (c :: s) = _
    rw [unescape?]
    simpa using hc.2.1
  · rw [hd]
    exact unescape?_byCode c s

theorem unescape?_flatMap (hquote : quote = '\'' ∨ quote = '"') (s : List Char) :
    unescape? false 0 (s.flatMap (encodeChar quote)) = some s := by
  induction s with
  | nil => rfl
  | cons c s ih =>
      rw [List.flatMap_cons, unescape?_encodeChar hquote, ih]
      rfl

/-- What is written for a character does not begin with the quote. -/
theorem exists_encodeChar (hquote : quote = '\'' ∨ quote = '"') (c : Char) :
    ∃ d l, encodeChar quote c = d :: l ∧ d ≠ quote := by
  have hslash : '\\' ≠ quote := ne_of_quote hquote (by decide)
  obtain ⟨d, hd, -⟩ | ⟨hd, hc, -⟩ | hd := encodeChar_cases quote c
  · exact ⟨_, _, hd, hslash⟩
  · exact ⟨_, _, hd, hc.1⟩
  · obtain ⟨mark, width, hcode, -⟩ := exists_byCode c
    exact ⟨_, _, hd.trans hcode, hslash⟩

/-- A quoted text does not begin with three quotes. -/
theorem isPrefixOf_flatMap (hquote : quote = '\'' ∨ quote = '"') (s : List Char) {rest : List Char}
    (hrest : ∀ c ∈ rest.head?, c ≠ quote) :
    [quote, quote].isPrefixOf (s.flatMap (encodeChar quote) ++ quote :: rest) = false := by
  cases s with
  | nil =>
      cases rest with
      | nil => simp
      | cons c rest =>
          have hc : c ≠ quote := hrest c rfl
          simp [List.isPrefixOf, hc.symm]
  | cons c s =>
      -- What a character is written as does not begin with the quote.
      obtain ⟨d, l, hd, hne⟩ := exists_encodeChar hquote c
      rw [List.flatMap_cons, hd]
      simp [List.isPrefixOf, hne.symm]

/-- **A quoted text reads back**: it is one string, which ends where the text does and stands for
the text. -/
theorem string?_encode (s : List Char) {rest : List Char}
    (hrest : ∀ c ∈ rest.head?, c ≠ '\'' ∧ c ≠ '"') :
    string? [] (encode s ++ rest) = some (.str (String.ofList s) false, rest) := by
  have hquote := quoteFor_eq s
  rw [encode]
  generalize quoteFor s = quote at hquote
  have hhead : ∀ c ∈ rest.head?, c ≠ quote := fun c hc => ne_of_quote hquote (hrest c hc)
  have htext : quote :: s.flatMap (encodeChar quote) ++ [quote] ++ rest =
      quote :: (s.flatMap (encodeChar quote) ++ quote :: rest) := by simp
  rw [htext, string?]
  simp only [stringPrefix?, Option.bind_eq_bind, Option.bind_some,
    isPrefixOf_flatMap hquote s hhead, Bool.false_eq_true, if_false, quoted?_flatMap hquote,
    unescape?_flatMap hquote, Bool.false_and]

/-! ## What is behind a string -/

variable {rest : List Char}

theorem two_le_of_isPrefixOf {s : List Char}
    (h : [quote, quote].isPrefixOf s = true) : 2 ≤ s.length :=
  (List.isPrefixOf_iff_prefix.1 h).length_le

/-- What is behind three quotes is behind any text that begins with them. -/
theorem isPrefixOf_append_rest {s : List Char} (hs : 2 ≤ s.length) (t : List Char) :
    [quote, quote].isPrefixOf (s ++ t) = [quote, quote].isPrefixOf s := by
  match s, hs with
  | c :: d :: s, _ => simp [List.isPrefixOf]

/-- Three quotes end a string that three quotes begin. -/
theorem three_le_of_quoted? {s body : List Char}
    (h : quoted? quote true s = some (body, rest)) : 3 ≤ s.length := by
  -- only the closing quotes count: any other character is followed by a string of three at least
  fun_induction quoted? quote true s generalizing body rest with
  | case1 => cases h
  | case2 => cases h
  | case3 c s ih =>
      obtain ⟨⟨body', rest'⟩, hs, -⟩ := Option.map_eq_some_iff.1 h
      have hle := ih hs
      simp only [List.length_cons]
      omega
  | case4 c s hc hclose =>
      have hprefix : [quote, quote].isPrefixOf s = true := by
        simpa using (Bool.and_eq_true_iff.1 hclose).2
      have hle := two_le_of_isPrefixOf hprefix
      simp only [List.length_cons]
      omega
  | case5 => cases h
  | case6 c s hc hclose hline ih =>
      obtain ⟨⟨body', rest'⟩, hs, -⟩ := Option.map_eq_some_iff.1 h
      have hle := ih hs
      simp only [List.length_cons]
      omega

/-- What is behind a string stands in the text behind something else. -/
theorem exists_append_of_quoted? {triple : Bool} {s body : List Char}
    (h : quoted? quote triple s = some (body, rest)) : ∃ c w, s = c :: (w ++ rest) := by
  fun_induction quoted? quote triple s generalizing body rest with
  | case1 => cases h
  | case2 => cases h
  | case3 c s ih =>
      obtain ⟨⟨body', rest'⟩, hs, heq⟩ := Option.map_eq_some_iff.1 h
      cases heq
      obtain ⟨d, w, rfl⟩ := ih hs
      exact ⟨'\\', c :: d :: w, rfl⟩
  | case4 c s hc hclose =>
      cases h
      split
      · exact ⟨c, s.take 2, by rw [List.take_append_drop]⟩
      · exact ⟨c, [], rfl⟩
  | case5 => cases h
  | case6 c s hc hclose hline ih =>
      obtain ⟨⟨body', rest'⟩, hs, heq⟩ := Option.map_eq_some_iff.1 h
      cases heq
      obtain ⟨d, w, rfl⟩ := ih hs
      exact ⟨c, d :: w, rfl⟩

/-- What is behind a string changes nothing about it. -/
theorem quoted?_append_rest {triple : Bool} {s body : List Char}
    (h : quoted? quote triple s = some (body, rest)) (t : List Char) :
    quoted? quote triple (s ++ t) = some (body, rest ++ t) := by
  fun_induction quoted? quote triple s generalizing body rest with
  | case1 => cases h
  | case2 => cases h
  | case3 c s ih =>
      obtain ⟨⟨body', rest'⟩, hs, heq⟩ := Option.map_eq_some_iff.1 h
      cases heq
      rw [List.cons_append, List.cons_append, quoted?_escape, ih hs]
      rfl
  | case4 c s hc hclose =>
      cases h
      rw [List.cons_append, quoted?]
      · cases triple with
        | false =>
            rw [if_pos (by simpa using hclose)]
            rfl
        | true =>
            -- all three quotes stand in front of what is behind the string
            have hprefix : [quote, quote].isPrefixOf s = true := by
              simpa using (Bool.and_eq_true_iff.1 hclose).2
            have hle := two_le_of_isPrefixOf hprefix
            rw [isPrefixOf_append_rest hle, if_pos hclose]
            simp only [if_true]
            rw [List.drop_append_of_le_length hle]
      · exact hc
  | case5 => cases h
  | case6 c s hc hclose hline ih =>
      obtain ⟨⟨body', rest'⟩, hs, heq⟩ := Option.map_eq_some_iff.1 h
      cases heq
      rw [List.cons_append, quoted?]
      · have hopen : ¬(c == quote && (!triple || [quote, quote].isPrefixOf (s ++ t))) = true := by
          cases triple with
          | false => simpa using hclose
          | true =>
              -- a quote here does not end the string with quotes from behind it: the three quotes
              -- that do are still to come
              have hle := three_le_of_quoted? hs
              rwa [isPrefixOf_append_rest (by omega)]
        rw [if_neg hopen, if_neg hline, ih hs]
        rfl
      · exact hc

/-- What a string with a prefix stands for, given what is between its quotes. -/
def literalOf? (p body : List Char) : Option Literal := do
  let (marked, raw, bytes) ← stringPrefix? p
  if bytes && body.any fun c => 128 ≤ c.toNat then none
  let text ← if raw then some body else unescape? bytes 0 body
  if bytes then some (.bytes (text.map fun c => c.toNat.toUInt8))
  else some (.str (String.ofList text) marked)

/-- A string ends at quotes like those that begin it. -/
theorem string?_cons (p : List Char) (quote : Char) (s : List Char) :
    string? p (quote :: s) =
      (quoted? quote ([quote, quote].isPrefixOf s)
        (if [quote, quote].isPrefixOf s then s.drop 2 else s)).bind fun r =>
          (literalOf? p r.1).map fun l => (l, r.2) := by
  -- the two sides differ only in the order in which prefix and quotes are read
  rw [string?]
  simp only [literalOf?]
  cases stringPrefix? p with
  | none => exact (Option.bind_fun_none _).symm
  | some kind =>
      obtain ⟨marked, raw, bytes⟩ := kind
      dsimp only [Option.bind_eq_bind, Option.bind_some]
      refine congrArg _ (funext fun r => ?_)
      cases (bytes && r.1.any fun c => decide (128 ≤ c.toNat)) with
      | true => rfl
      | false =>
          cases raw with
          | true => cases bytes <;> rfl
          | false =>
              rw [if_neg Bool.false_ne_true, if_neg Bool.false_ne_true]
              cases unescape? bytes 0 r.1 with
              | none => rfl
              | some text => cases bytes <;> rfl

/-- A string that begins with fewer than three quotes begins so whatever is behind it, unless this
is another quote. -/
theorem isPrefixOf_append_of_quoted? {s body t : List Char}
    (h : quoted? quote false s = some (body, rest)) (hfew : [quote, quote].isPrefixOf s = false)
    (ht : rest = [] → ∀ c ∈ t.head?, c ≠ quote) : [quote, quote].isPrefixOf (s ++ t) = false := by
  match s with
  | [] => cases h
  -- All of the text is the closing quote, so nothing is left of it.
  | [d] =>
      have hrest : rest = [] := by
        obtain ⟨c, w, heq⟩ := exists_append_of_quoted? h
        have hnil := (List.cons.inj heq).2
        exact (List.append_eq_nil_iff.1 hnil.symm).2
      cases t with
      | nil => simp [List.isPrefixOf]
      | cons c t =>
          have hc : c ≠ quote := ht hrest c rfl
          simp [List.isPrefixOf, hc.symm]
  | c :: d :: s => rw [isPrefixOf_append_rest (by simp), hfew]

/-- What is behind a string changes nothing about it, unless it is another quote. -/
theorem string?_append_rest {p s t : List Char} {l : Literal}
    (h : string? p (quote :: s) = some (l, rest)) (ht : rest = [] → ∀ c ∈ t.head?, c ≠ quote) :
    string? p (quote :: s ++ t) = some (l, rest ++ t) := by
  rw [string?_cons] at h
  obtain ⟨⟨body, rest'⟩, hquoted, hmap⟩ := Option.bind_eq_some_iff.1 h
  obtain ⟨l', hl, heq⟩ := Option.map_eq_some_iff.1 hmap
  cases heq
  have hl : literalOf? p body = some l := hl
  rw [List.cons_append, string?_cons]
  -- behind one quote, what follows must not make it three
  cases htriple : [quote, quote].isPrefixOf s with
  | true =>
      have hle := two_le_of_isPrefixOf htriple
      rw [htriple, if_pos rfl] at hquoted
      have happend := quoted?_append_rest hquoted t
      rw [isPrefixOf_append_rest hle, htriple, if_pos rfl, List.drop_append_of_le_length hle,
        happend]
      simp [hl]
  | false =>
      rw [htriple, if_neg Bool.false_ne_true] at hquoted
      have happend := quoted?_append_rest hquoted t
      rw [isPrefixOf_append_of_quoted? hquoted htriple ht, if_neg Bool.false_ne_true, happend]
      simp [hl]

theorem exists_append_of_string? {p s : List Char} {l : Literal}
    (h : string? p (quote :: s) = some (l, rest)) : ∃ w, s = w ++ rest := by
  rw [string?_cons] at h
  obtain ⟨⟨body, rest'⟩, hquoted, hmap⟩ := Option.bind_eq_some_iff.1 h
  obtain ⟨l', -, heq⟩ := Option.map_eq_some_iff.1 hmap
  cases heq
  obtain ⟨c, w, hs⟩ := exists_append_of_quoted? hquoted
  split at hs
  · exact ⟨s.take 2 ++ c :: w, by
      rw [List.append_assoc, List.cons_append, ← hs, List.take_append_drop]⟩
  · exact ⟨c :: w, hs⟩

end Lexeme

end Curly
