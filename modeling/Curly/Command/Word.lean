/-!
The words of a command line: switches with what they are given, and arguments. A long switch may be
cut short as long as no other one begins so.
-/

namespace Curly.Command

/-- Switches. -/
inductive Switch
  | help
  | version
  | config
  | verbose
  | context
  | set
  deriving DecidableEq, Inhabited

/-- Whether a switch is given a value. -/
def Switch.takesValue : Switch → Bool
  | .config | .context | .set => true
  | .help | .version | .verbose => false

/-- What is written together with a switch. -/
inductive Given
  | nothing
  /-- What follows a short switch without a gap. -/
  | attached (text : List Char)
  /-- What follows an equals sign. -/
  | assigned (text : List Char)
  deriving DecidableEq, Inhabited

/-- Words. -/
inductive Word
  | argument (text : String)
  /-- Two dashes: all words behind them are arguments. -/
  | separator
  | switch (which : Switch) (given : Given)
  /-- What looks like a switch but is none. -/
  | unknown
  deriving DecidableEq, Inhabited

/-- Switches under their names. -/
abbrev Table := List (String × Switch)

/-- A text in front of its first equals sign, and behind it. -/
def splitAssigned (s : List Char) : List Char × Given :=
  match s.dropWhile (· != '=') with
  | _ :: value => (s.takeWhile (· != '='), .assigned value)
  | [] => (s, .nothing)

/-- Whether a text is a negative number. -/
def isNegative (s : List Char) : Bool :=
  match s with
  | '-' :: body =>
    match body.dropWhile Char.isDigit with
    | [] => !body.isEmpty
    | c :: fraction => c == '.' && !fraction.isEmpty && fraction.all Char.isDigit
  | _ => false

namespace Table

/-- The switches that a text may be cut short from, or that it begins with. -/
def candidates (table : Table) (s : List Char) : List (Switch × Given) :=
  match s with
  | '-' :: '-' :: _ =>
    let (name, given) := splitAssigned s
    (table.filter fun (n, _) => name.isPrefixOf n.toList).map fun (_, w) => (w, given)
  | '-' :: c :: rest =>
    ((table.lookup (String.ofList ['-', c])).map fun w => (w, .attached rest)).toList
  | _ => []

/-- The switch that stands in full in a text. -/
def inFull? (table : Table) (s : List Char) : Option (Switch × Given) :=
  let (name, given) := splitAssigned s
  match table.lookup (String.ofList s), table.lookup (String.ofList name) with
  | some w, _ => some (w, .nothing)
  | none, some w => some (w, given)
  | none, none => none

/-- The word that a text is. It is none if it could be several switches. -/
def word? (table : Table) (text : String) : Option Word :=
  let s := text.toList
  if s.head? != some '-' || s.length < 2 then some (.argument text)
  else match table.inFull? s with
    | some (w, given) => some (.switch w given)
    | none =>
      match table.candidates s with
      | [(w, given)] => some (.switch w given)
      | [] => if isNegative s || s.contains ' ' then some (.argument text) else some .unknown
      | _ => none

/-- The words that texts are, if all are clear. -/
def words? (table : Table) : List String → Option (List Word)
  | [] => some []
  | text :: texts =>
    if text == "--" then some (.separator :: texts.map .argument)
    else do return (← table.word? text) :: (← words? table texts)

/-- Every text is one word. -/
theorem length_of_words? {table : Table} {texts : List String} {ws : List Word}
    (h : table.words? texts = some ws) : ws.length = texts.length := by
  induction texts generalizing ws with
  | nil => simp_all [words?]
  | cons text texts ih =>
    unfold words? at h
    split at h
    · simp only [Option.some.injEq] at h
      simp [← h]
    · obtain ⟨w, _, h⟩ := Option.bind_eq_some_iff.1 h
      obtain ⟨rest, hr, h⟩ := Option.bind_eq_some_iff.1 h
      simp only [Option.pure_def, Option.some.injEq] at h
      simp [← h, ih hr]

end Table

end Curly.Command
