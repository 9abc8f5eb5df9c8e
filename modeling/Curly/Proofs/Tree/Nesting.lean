import Curly.Proofs.Except
import Curly.Tree.Parser

/-!
Nesting: which lists of tokens are trees. A tree is written flat by writing its nodes one after the
other, a block as its opener, its nodes and its closer. The parser undoes this: it makes a tree of
exactly the lists that are some tree written flat, and these are the lists whose blocks are well
nested. Places mean nothing to it, nor do the values of closers.

The proofs go by how siblings are parsed (`Parses`), and by what the parser does with the tokens of
nodes when other tokens follow (`parse_append_of_nodes`): it reads these nodes and goes on with what
follows.
-/

namespace Curly

/-! ## Kinds and shapes of tokens -/

/-- Whether a kind is one of the seven that the lexer makes. -/
def TokenKind.IsKnown : TokenKind → Prop
  | .other _ => False
  | _ => True

/-- Whether a kind opens or closes a block. -/
def TokenKind.isBracket : TokenKind → Bool
  | .opener _ | .closer _ => true
  | _ => false

/-- Openers and closers that are well nested: every block is closed by its own kind of closer, and
what stands inside and behind it is well nested. -/
inductive IsWellNested : List TokenKind → Prop
  | nil : IsWellNested []
  | block (kind : BlockKind) {inner rest : List TokenKind} (hinner : IsWellNested inner)
      (hrest : IsWellNested rest) :
      IsWellNested (.opener kind :: inner ++ .closer kind :: rest)

/-- What a token says in its list: its kind and its value. Closers say nothing but their kind. -/
def Token.shape (t : Token) : TokenKind × String :=
  match t.kind with
  | .closer kind => (.closer kind, "")
  | kind => (kind, t.value)

/-- The node that a token is on its own. -/
def Token.leaf? (t : Token) : Option Node :=
  match t.kind with
  | .text => some (.text t.value)
  | .variable => some (.variable t.value)
  | .raw => some (.raw t.value)
  | _ => none

/-- A token is a node on its own, or it opens or closes a block, or its kind is not known. -/
theorem Token.leaf_or_bracket (t : Token) :
    (∃ n, t.leaf? = some n) ∨ (∃ kind, t.kind = .opener kind) ∨ (∃ kind, t.kind = .closer kind) ∨
      ∃ name, t.kind = .other name := by
  obtain ⟨kind, value, place⟩ := t
  cases kind with
  | opener kind => exact .inr (.inl ⟨kind, rfl⟩)
  | closer kind => exact .inr (.inr (.inl ⟨kind, rfl⟩))
  | other name => exact .inr (.inr (.inr ⟨name, rfl⟩))
  | _ => exact .inl ⟨_, rfl⟩

theorem Token.shape_eq_opener {t : Token} {kind : BlockKind} {value : String} :
    t.shape = (.opener kind, value) ↔ t.kind = .opener kind ∧ t.value = value := by
  obtain ⟨kind', value', place⟩ := t
  cases kind' <;> simp [Token.shape]

theorem Token.shape_eq_closer {t : Token} {kind : BlockKind} :
    t.shape = (.closer kind, "") ↔ t.kind = .closer kind := by
  obtain ⟨kind', value', place⟩ := t
  cases kind' <;> simp [Token.shape]

theorem Token.shape_fst (t : Token) : t.shape.1 = t.kind := by
  obtain ⟨kind, value, place⟩ := t
  cases kind <;> rfl

/-! ## Trees written flat -/

mutual

/-- A node written flat: the kinds and values of its tokens. -/
def Node.flatten : Node → List (TokenKind × String)
  | .text value => [(.text, value)]
  | .variable expression => [(.variable, expression)]
  | .raw expression => [(.raw, expression)]
  | .cond condition children =>
    (.opener .cond, condition) :: flattenAll children ++ [(.closer .cond, "")]
  | .each items children =>
    (.opener .each, items) :: flattenAll children ++ [(.closer .each, "")]
  | .foreign typeName => [(.other typeName, "")]

/-- Nodes written flat, one after the other. -/
def flattenAll : List Node → List (TokenKind × String)
  | [] => []
  | n :: ns => n.flatten ++ flattenAll ns

end

mutual

/-- A node without foreign nodes in it. -/
def Node.IsKnown : Node → Prop
  | .foreign _ => False
  | .cond _ children | .each _ children => AreKnown children
  | .text _ | .variable _ | .raw _ => True

/-- Nodes without foreign nodes in them. -/
def AreKnown : List Node → Prop
  | [] => True
  | n :: ns => n.IsKnown ∧ AreKnown ns

end

/-- A tree written flat. -/
def Tree.flatten (t : Tree) : List (TokenKind × String) := flattenAll t.children

/-- A tree without foreign nodes. -/
def Tree.IsKnown (t : Tree) : Prop := AreKnown t.children

theorem Node.flatten_block (kind : BlockKind) (value : String) (children : List Node) :
    (Node.block kind value children).flatten =
      (.opener kind, value) :: flattenAll children ++ [(.closer kind, "")] := by
  cases kind <;> rw [Node.block, Node.flatten]

theorem Node.isKnown_block (kind : BlockKind) (value : String) {children : List Node} :
    (Node.block kind value children).IsKnown ↔ AreKnown children := by
  cases kind <;> rw [Node.block, Node.IsKnown]

theorem flattenAll_append (ns ns' : List Node) :
    flattenAll (ns ++ ns') = flattenAll ns ++ flattenAll ns' := by
  induction ns with
  | nil => rfl
  | cons n ns ih => rw [List.cons_append, flattenAll, flattenAll, ih, List.append_assoc]

theorem areKnown_append {ms ns : List Node} :
    AreKnown (ms ++ ns) ↔ AreKnown ms ∧ AreKnown ns := by
  induction ms with
  | nil => simp [AreKnown]
  | cons m ms ih => rw [List.cons_append, AreKnown, AreKnown, ih, and_assoc]

/-- A token that is a node on its own is that node written flat. -/
theorem Token.flatten_of_leaf {t : Token} {n : Node} (h : t.leaf? = some n) :
    n.flatten = [t.shape] ∧ n.IsKnown := by
  obtain ⟨kind, value, place⟩ := t
  cases kind
  all_goals cases h
  all_goals exact ⟨rfl, trivial⟩

/-- A node of which one token is left when it is written flat is that token on its own. -/
theorem Token.leaf?_of_flatten {t : Token} {n : Node} (hn : n.IsKnown)
    (h : n.flatten = [t.shape]) : t.leaf? = some n := by
  obtain ⟨kind, value, place⟩ := t
  cases n with
  | foreign typeName => exact absurd hn id
  | cond condition children => simp [Node.flatten] at h
  | each items children => simp [Node.flatten] at h
  | _ => cases kind <;> simp_all [Token.leaf?, Node.flatten, Token.shape]

/-! ## What the parser does with each token -/

namespace Parser

/-- The siblings at the front of a list of tokens, and the tokens that they leave. -/
def parse (ts : List Token) : Except StructureFailure (List Node × List Token) :=
  (siblings ts).map Subtype.val

theorem parse_nil : parse [] = .ok ([], []) := by
  rw [parse, siblings]
  rfl

theorem parse_leaf {t : Token} {n : Node} (h : t.leaf? = some n) (rest : List Token) :
    parse (t :: rest) = (parse rest).map fun r => (n :: r.1, r.2) := by
  obtain ⟨kind, value, place⟩ := t
  cases kind
  all_goals cases h
  all_goals
    simp only [parse, siblings]
    cases siblings rest <;> rfl

theorem parse_opener {t : Token} {kind : BlockKind} (h : t.kind = .opener kind)
    (rest : List Token) :
    parse (t :: rest) = (parse rest).bind fun r =>
      match r.2 with
      | [] => .error ⟨.unclosed kind, some t⟩
      | c :: after =>
        if c.kind = .closer kind then
          (parse after).map fun r' => (.block kind t.value r.1 :: r'.1, r'.2)
        else .error ⟨.unclosed kind, some t⟩ := by
  obtain ⟨_, value, place⟩ := t
  cases h
  simp only [parse, siblings]
  cases siblings rest with
  | error e => rfl
  | ok r =>
      -- the bound on the length of what is left is dropped with the subtype
      obtain ⟨⟨inner, left⟩, hle⟩ := r
      cases left with
      | nil => rfl
      | cons c after =>
          by_cases hc : c.kind = .closer kind
          · simp only [Except.map, Bind.bind, Except.bind, hc, if_true]
            cases siblings after <;> rfl
          · simp only [Except.map, Bind.bind, Except.bind, hc, if_false]

theorem parse_closer {t : Token} {kind : BlockKind} (h : t.kind = .closer kind)
    (rest : List Token) : parse (t :: rest) = .ok ([], t :: rest) := by
  obtain ⟨_, value, place⟩ := t
  cases h
  simp only [parse, siblings]
  rfl

theorem parse_other {t : Token} {name : String} (h : t.kind = .other name)
    (rest : List Token) : parse (t :: rest) = .error ⟨.unknownKind name, some t⟩ := by
  obtain ⟨_, value, place⟩ := t
  cases h
  simp only [parse, siblings]
  rfl

/-! ## What is parsed is the tokens, written as nodes -/

/-- How siblings are parsed: one node or block after the other, up to the end or to a closer. -/
inductive Parses : List Token → List Node → List Token → Prop
  | nil : Parses [] [] []
  | leaf {t : Token} {n : Node} {rest left : List Token} {ns : List Node} (ht : t.leaf? = some n)
      (hrest : Parses rest ns left) : Parses (t :: rest) (n :: ns) left
  | block {t c : Token} {kind : BlockKind} {rest after left : List Token} {inner ns : List Node}
      (ht : t.kind = .opener kind) (hinner : Parses rest inner (c :: after))
      (hc : c.kind = .closer kind) (hrest : Parses after ns left) :
      Parses (t :: rest) (.block kind t.value inner :: ns) left
  | closer {t : Token} {kind : BlockKind} (rest : List Token) (ht : t.kind = .closer kind) :
      Parses (t :: rest) [] (t :: rest)

/-- The siblings that are parsed are the tokens in front of those that are left. -/
theorem Parses.exists_front {ts left : List Token} {ns : List Node} (h : Parses ts ns left) :
    ∃ front, ts = front ++ left ∧ flattenAll ns = front.map Token.shape ∧ AreKnown ns := by
  induction h with
  | nil => exact ⟨[], rfl, rfl, trivial⟩
  | @leaf t n _ _ _ ht _ ih =>
      obtain ⟨front, rfl, hflat, hknown⟩ := ih
      obtain ⟨hshape, hn⟩ := Token.flatten_of_leaf ht
      refine ⟨t :: front, rfl, ?_, hn, hknown⟩
      rw [flattenAll, hshape, hflat]
      rfl
  | @block t c kind _ _ _ _ _ ht _ hc _ ihinner ih =>
      obtain ⟨front, rfl, hflat, hknown⟩ := ihinner
      obtain ⟨front', rfl, hflat', hknown'⟩ := ih
      refine ⟨t :: front ++ c :: front', by simp, ?_, (Node.isKnown_block kind _).2 hknown,
        hknown'⟩
      rw [flattenAll, Node.flatten_block, hflat, hflat', ← Token.shape_eq_opener.2 ⟨ht, rfl⟩,
        ← Token.shape_eq_closer.2 hc]
      simp
  | closer => exact ⟨[], rfl, rfl, trivial⟩

/-- What is left behind the closer of a block is shorter than what is behind its opener. -/
theorem Parses.length_lt {ts after : List Token} {ns : List Node} {c : Token}
    (h : Parses ts ns (c :: after)) : after.length < ts.length := by
  obtain ⟨front, rfl, -⟩ := h.exists_front
  rw [List.length_append, List.length_cons]
  omega

theorem parses_of_parse : (ts : List Token) → {ns : List Node} → {left : List Token} →
    parse ts = .ok (ns, left) → Parses ts ns left
  | [], ns, left, h => by
      rw [parse_nil] at h
      cases h
      exact .nil
  | t :: rest, ns, left, h => by
      obtain ⟨n, hn⟩ | ⟨kind, hkind⟩ | ⟨kind, hkind⟩ | ⟨name, hkind⟩ := t.leaf_or_bracket
      · rw [parse_leaf hn] at h
        obtain ⟨⟨ns', left'⟩, hr, heq⟩ := Except.map_eq_ok_iff.1 h
        cases heq
        exact .leaf hn (parses_of_parse rest hr)
      · rw [parse_opener hkind] at h
        -- a block is parsed only if its siblings stop at a closer of its kind
        obtain ⟨⟨inner, closing⟩, hr, hclosing⟩ := Except.bind_eq_ok_iff.1 h
        have hinner := parses_of_parse rest hr
        cases closing with
        | nil => cases hclosing
        | cons c after =>
            -- the second run of siblings is behind the closer of the first one
            have hlt := hinner.length_lt
            dsimp only at hclosing
            split at hclosing
            · rename_i hc
              obtain ⟨⟨ns', left'⟩, hr', heq⟩ := Except.map_eq_ok_iff.1 hclosing
              cases heq
              exact .block hkind hinner hc (parses_of_parse after hr')
            · cases hclosing
      · rw [parse_closer hkind] at h
        cases h
        exact .closer rest hkind
      · rw [parse_other hkind] at h
        cases h
termination_by ts => ts.length

/-! ## Nodes written flat are parsed -/

theorem parse_append_of_leaf {n : Node} (hknown : n.IsKnown) {m : TokenKind × String}
    (hflat : n.flatten = [m]) {front : List Token} (rest : List Token)
    (hfront : front.map Token.shape = n.flatten) :
    parse (front ++ rest) = (parse rest).map fun r => (n :: r.1, r.2) := by
  obtain ⟨t, none, rfl, ht, hnone⟩ := List.map_eq_cons_iff.1 (hfront.trans hflat)
  cases List.map_eq_nil_iff.1 hnone
  exact parse_leaf (Token.leaf?_of_flatten hknown (by rw [hflat, ht])) rest

theorem parse_append_of_block (kind : BlockKind) {value : String} {children : List Node}
    {front : List Token} (rest : List Token)
    (hinner : ∀ (front rest : List Token), front.map Token.shape = flattenAll children →
      parse (front ++ rest) = (parse rest).map fun r => (children ++ r.1, r.2))
    (hfront : front.map Token.shape = (Node.block kind value children).flatten) :
    parse (front ++ rest) =
      (parse rest).map fun r => (.block kind value children :: r.1, r.2) := by
  rw [Node.flatten_block, List.cons_append, List.map_eq_cons_iff] at hfront
  obtain ⟨t, more, rfl, ht, hmore⟩ := hfront
  obtain ⟨inner, closing, rfl, hin, hclosing⟩ := List.map_eq_append_iff.1 hmore
  obtain ⟨c, none, rfl, hc, hnone⟩ := List.map_eq_cons_iff.1 hclosing
  cases List.map_eq_nil_iff.1 hnone
  obtain ⟨hkind, rfl⟩ := Token.shape_eq_opener.1 ht
  have hck : c.kind = .closer kind := Token.shape_eq_closer.1 hc
  -- the nodes inside stop at the closer of the block
  have hchildren : parse (inner ++ c :: rest) = .ok (children, c :: rest) := by
    rw [hinner inner (c :: rest) hin, parse_closer hck]
    simp [Except.map]
  have happend : t :: (inner ++ [c]) ++ rest = t :: (inner ++ c :: rest) := by simp
  rw [happend, parse_opener hkind, hchildren]
  simp only [Except.bind, hck, if_true]

mutual

/-- The tokens of a node are parsed to the node, whatever follows. -/
theorem parse_append_of_node : (n : Node) → n.IsKnown → ∀ front rest : List Token,
    front.map Token.shape = n.flatten →
    parse (front ++ rest) = (parse rest).map fun r => (n :: r.1, r.2)
  | .cond _ children, hknown, _, rest, hfront =>
      parse_append_of_block .cond rest (parse_append_of_nodes children hknown) hfront
  | .each _ children, hknown, _, rest, hfront =>
      parse_append_of_block .each rest (parse_append_of_nodes children hknown) hfront
  | .text _, hknown, _, rest, hfront => parse_append_of_leaf hknown rfl rest hfront
  | .variable _, hknown, _, rest, hfront => parse_append_of_leaf hknown rfl rest hfront
  | .raw _, hknown, _, rest, hfront => parse_append_of_leaf hknown rfl rest hfront
  | .foreign _, hknown, _, _, _ => absurd hknown id

/-- The tokens of nodes are parsed to the nodes, whatever follows. -/
theorem parse_append_of_nodes : (ns : List Node) → AreKnown ns → ∀ front rest : List Token,
    front.map Token.shape = flattenAll ns →
    parse (front ++ rest) = (parse rest).map fun r => (ns ++ r.1, r.2)
  | [], _, front, rest, hfront => by
      cases List.map_eq_nil_iff.1 hfront
      cases h : parse rest <;> simp [h, Except.map]
  | n :: ns, hknown, front, rest, hfront => by
      rw [flattenAll, List.map_eq_append_iff] at hfront
      obtain ⟨first, more, rfl, hfirst, hmore⟩ := hfront
      rw [List.append_assoc, parse_append_of_node n hknown.1 first (more ++ rest) hfirst,
        parse_append_of_nodes ns hknown.2 more rest hmore]
      cases parse rest <;> rfl

end

end Parser

theorem Tree.ofTokens_eq_parse (ts : List Token) :
    Tree.ofTokens ts = (Parser.parse ts).bind fun r =>
      match r.2 with
      | [] => .ok ⟨r.1⟩
      | t :: _ => .error ⟨.unexpected, some t⟩ := by
  rw [Tree.ofTokens, Parser.parse]
  cases Parser.siblings ts with
  | error e => rfl
  | ok r =>
      obtain ⟨⟨nodes, left⟩, hle⟩ := r
      cases left <;> rfl

/-- The parser makes a tree of the tokens that are this tree written flat, and of no others. -/
theorem Tree.ofTokens_eq_ok_iff {ts : List Token} {t : Tree} :
    Tree.ofTokens ts = .ok t ↔ t.IsKnown ∧ t.flatten = ts.map Token.shape := by
  rw [Tree.ofTokens_eq_parse, Except.bind_eq_ok_iff]
  constructor
  · rintro ⟨⟨ns, left⟩, hparse, ht⟩
    cases left with
    | cons c after => cases ht
    | nil =>
        cases ht
        obtain ⟨front, rfl, hflat, hknown⟩ := (Parser.parses_of_parse ts hparse).exists_front
        rw [List.append_nil]
        exact ⟨hknown, hflat⟩
  · rintro ⟨hknown, hflat⟩
    refine ⟨(t.children, []), ?_, rfl⟩
    have h := Parser.parse_append_of_nodes t.children hknown ts [] hflat.symm
    rw [List.append_nil, Parser.parse_nil] at h
    rw [h]
    simp [Except.map]

/-! ## Trees and nesting -/

theorem IsWellNested.append {ks ks' : List TokenKind} (h : IsWellNested ks)
    (h' : IsWellNested ks') : IsWellNested (ks ++ ks') := by
  induction h with
  | nil => exact h'
  | block kind hinner _ _ ih =>
      simp only [List.cons_append, List.append_assoc]
      exact .block kind hinner ih

theorem isWellNested_flatten_block (kind : BlockKind) (value : String) {children : List Node}
    (h : IsWellNested (((flattenAll children).map Prod.fst).filter TokenKind.isBracket)) :
    IsWellNested
      (((Node.block kind value children).flatten.map Prod.fst).filter TokenKind.isBracket) := by
  simpa [Node.flatten_block, List.filter_cons, TokenKind.isBracket] using
    IsWellNested.block kind h .nil

mutual

/-- The blocks of a node written flat are well nested. -/
theorem Node.isWellNested_flatten : (n : Node) → n.IsKnown →
    IsWellNested ((n.flatten.map Prod.fst).filter TokenKind.isBracket)
  | .cond condition children, hknown =>
      isWellNested_flatten_block .cond condition (isWellNested_flattenAll children hknown)
  | .each items children, hknown =>
      isWellNested_flatten_block .each items (isWellNested_flattenAll children hknown)
  | .text _, _ | .variable _, _ | .raw _, _ => .nil
  | .foreign _, hknown => absurd hknown id

/-- The blocks of nodes written flat are well nested. -/
theorem isWellNested_flattenAll : (ns : List Node) → AreKnown ns →
    IsWellNested (((flattenAll ns).map Prod.fst).filter TokenKind.isBracket)
  | [], _ => .nil
  | n :: ns, hknown => by
      rw [flattenAll, List.map_append, List.filter_append]
      exact (Node.isWellNested_flatten n hknown.1).append (isWellNested_flattenAll ns hknown.2)

end

/-- Known tokens that are no brackets are nodes on their own. -/
theorem exists_nodes_of_leaves {ts : List Token} (hts : ∀ t ∈ ts, t.kind.IsKnown)
    (hleaf : ∀ t ∈ ts, ¬t.kind.isBracket) :
    ∃ ns, AreKnown ns ∧ flattenAll ns = ts.map Token.shape := by
  induction ts with
  | nil => exact ⟨[], trivial, rfl⟩
  | cons t ts ih =>
      rw [List.forall_mem_cons] at hts hleaf
      obtain ⟨ns, hknown, hflat⟩ := ih hts.2 hleaf.2
      obtain ⟨n, hn⟩ | ⟨kind, hkind⟩ | ⟨kind, hkind⟩ | ⟨name, hkind⟩ := t.leaf_or_bracket
      · obtain ⟨hshape, hn⟩ := Token.flatten_of_leaf hn
        refine ⟨n :: ns, ⟨hn, hknown⟩, ?_⟩
        rw [flattenAll, hshape, hflat]
        rfl
      · exact absurd (by rw [hkind]; rfl) hleaf.1
      · exact absurd (by rw [hkind]; rfl) hleaf.1
      · rw [hkind] at hts
        exact absurd hts.1 id

/-- Known tokens whose blocks are well nested are nodes written flat. -/
theorem exists_nodes_of_isWellNested {ks : List TokenKind} (h : IsWellNested ks) :
    ∀ {ts : List Token}, (∀ t ∈ ts, t.kind.IsKnown) →
      (ts.filter fun t => t.kind.isBracket).map Token.kind = ks →
      ∃ ns, AreKnown ns ∧ flattenAll ns = ts.map Token.shape := by
  induction h with
  | nil =>
      intro ts hts hnil
      exact exists_nodes_of_leaves hts (List.filter_eq_nil_iff.1 (List.map_eq_nil_iff.1 hnil))
  | @block kind inner rest _ _ ihinner ihrest =>
      intro ts hts hblock
      -- the brackets of the block, and the ones inside and behind it
      obtain ⟨first, last, hsplit, hfirst, hlast⟩ := List.map_eq_append_iff.1 hblock
      obtain ⟨o, is, rfl, ho, hinner⟩ := List.map_eq_cons_iff.1 hfirst
      obtain ⟨c, rs, rfl, hc, hrest⟩ := List.map_eq_cons_iff.1 hlast
      -- the tokens that stand between them
      obtain ⟨before, ts₁, rfl, hbefore, -, hts₁⟩ := List.filter_eq_cons_iff.1 hsplit
      obtain ⟨front, ts₂, rfl, rfl, hts₂⟩ := List.filter_eq_append_iff.1 hts₁
      obtain ⟨between, after, rfl, hbetween, -, rfl⟩ := List.filter_eq_cons_iff.1 hts₂
      simp only [List.forall_mem_append, List.forall_mem_cons] at hts
      obtain ⟨hknown₁, -, hknown₂, hknown₃, -, hknown₄⟩ := hts
      have hinside :
          ((front ++ between).filter fun t => t.kind.isBracket).map Token.kind = inner := by
        rw [List.filter_append, List.filter_eq_nil_iff.2 hbetween, List.append_nil]
        exact hinner
      obtain ⟨leaves, hleaves, hflat⟩ := exists_nodes_of_leaves hknown₁ hbefore
      obtain ⟨children, hchildren, hflat'⟩ :=
        ihinner (List.forall_mem_append.2 ⟨hknown₂, hknown₃⟩) hinside
      obtain ⟨ns, hns, hflat''⟩ := ihrest hknown₄ hrest
      refine ⟨leaves ++ .block kind o.value children :: ns,
        areKnown_append.2 ⟨hleaves, (Node.isKnown_block kind _).2 hchildren, hns⟩, ?_⟩
      rw [flattenAll_append, flattenAll, Node.flatten_block, hflat, hflat', hflat'',
        ← Token.shape_eq_opener.2 ⟨ho, rfl⟩, ← Token.shape_eq_closer.2 hc]
      simp

theorem filter_shape_map (ts : List Token) :
    ((ts.map Token.shape).map Prod.fst).filter TokenKind.isBracket =
      (ts.filter fun t => t.kind.isBracket).map Token.kind := by
  have hfst : Prod.fst ∘ Token.shape = Token.kind := funext Token.shape_fst
  rw [List.map_map, hfst, List.filter_map]
  rfl

/-- **The parser accepts the well nested lists of tokens and loses nothing.** Tokens of known kinds
have a tree if and only if their openers and closers are well nested; the tree, written flat, is the
tokens again; and of any tree written flat the parser makes that tree. -/
theorem Tree.ofTokens_wellNested :
    (∀ ts : List Token, (∀ t ∈ ts, t.kind.IsKnown) →
      ((∃ tree, Tree.ofTokens ts = .ok tree) ↔
        IsWellNested ((ts.filter fun t => t.kind.isBracket).map Token.kind))) ∧
    (∀ (ts : List Token) (tree : Tree), Tree.ofTokens ts = .ok tree →
      tree.flatten = ts.map Token.shape) ∧
    (∀ (tree : Tree) (ts : List Token), tree.IsKnown → ts.map Token.shape = tree.flatten →
      Tree.ofTokens ts = .ok tree) := by
  refine ⟨fun ts hts => ⟨?_, fun hnested => ?_⟩, fun ts tree h => (ofTokens_eq_ok_iff.1 h).2,
    fun tree ts hknown h => ofTokens_eq_ok_iff.2 ⟨hknown, h.symm⟩⟩
  · rintro ⟨tree, h⟩
    obtain ⟨hknown, hflat⟩ := ofTokens_eq_ok_iff.1 h
    rw [← filter_shape_map, ← hflat]
    exact isWellNested_flattenAll tree.children hknown
  · obtain ⟨ns, hknown, hflat⟩ := exists_nodes_of_isWellNested hnested hts rfl
    exact ⟨⟨ns⟩, ofTokens_eq_ok_iff.2 ⟨hknown, hflat⟩⟩

/-- A block in a block. -/
theorem Tree.ofTokens_wellNested_inner :
    Tree.ofTokens [⟨.opener .cond, "a", .start⟩, ⟨.opener .each, "b", .start⟩, ⟨.raw, "c", .start⟩,
        ⟨.closer .each, "d", .start⟩, ⟨.closer .cond, "", .start⟩] =
      .ok ⟨[.cond "a" [.each "b" [.raw "c"]]]⟩ ∧
    IsWellNested [.opener .cond, .opener .each, .closer .each, .closer .cond] ∧
    Tree.flatten ⟨[.cond "a" [.each "b" [.raw "c"]]]⟩ =
      [(.opener .cond, "a"), (.opener .each, "b"), (.raw, "c"), (.closer .each, ""),
        (.closer .cond, "")] := by
  have htree := Tree.ofTokens_wellNested.2.2 ⟨[.cond "a" [.each "b" [.raw "c"]]]⟩
    [⟨.opener .cond, "a", .start⟩, ⟨.opener .each, "b", .start⟩, ⟨.raw, "c", .start⟩,
      ⟨.closer .each, "d", .start⟩, ⟨.closer .cond, "", .start⟩]
    (by simp [Tree.IsKnown, AreKnown, Node.IsKnown]) rfl
  refine ⟨htree, ?_, Tree.ofTokens_wellNested.2.1 _ _ htree⟩
  exact (Tree.ofTokens_wellNested.1 _ (by simp [TokenKind.IsKnown])).1 ⟨_, htree⟩

end Curly
