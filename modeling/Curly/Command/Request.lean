import Curly.Command.Word

/-!
Requests: what a command line asks for. First come the switches of the program, then a subcommand,
and then the switches of the subcommand around its template.
-/

namespace Curly.Command

/-- Subcommands. -/
inductive Subcommand
  | render
  | compile
  | tokens
  | tree
  deriving DecidableEq, Inhabited

namespace Subcommand

/-- The name of a subcommand. -/
def name : Subcommand → String
  | .render => "render"
  | .compile => "compile"
  | .tokens => "tokens"
  | .tree => "ast"

/-- Every subcommand. -/
def all : List Subcommand := [.render, .compile, .tokens, .tree]

/-- The subcommand with a name. -/
def ofName? (name : String) : Option Subcommand := all.find? (·.name == name)

end Subcommand

/-- What is asked for: a subcommand for a template, with the file of the settings and whether
details are reported, and for rendering the file of the data and assignments. -/
structure Request where
  subcommand : Subcommand
  template : String
  config : Option String := none
  verbose : Bool := false
  context : Option String := none
  assignments : List String := []
  deriving DecidableEq, Inhabited

/-- How reading a command line ends without a request. -/
inductive Ending
  | help (of : Option Subcommand)
  | version
  | refused
  deriving DecidableEq, Inhabited

/-- The switches of the program. -/
def programTable : Table :=
  [("-h", .help), ("--help", .help), ("-v", .version), ("--version", .version),
    ("--config", .config), ("--verbose", .verbose)]

/-- The switches of a subcommand. -/
def subcommandTable : Subcommand → Table
  | .render =>
    [("-h", .help), ("--help", .help), ("--context", .context), ("-c", .context),
      ("--set", .set)]
  | .compile | .tokens | .tree => [("-h", .help), ("--help", .help)]

/-- The value of a switch, and the words behind it. It is given, or it is the next argument. -/
def valueOf (given : Given) (rest : List Word) : Except Ending (String × List Word) :=
  match given, rest with
  | .attached s, _ | .assigned s, _ => .ok (String.ofList s, rest)
  | .nothing, .argument s :: rest => .ok (s, rest)
  | .nothing, _ => .error .refused

/-- How reading ends at a short switch that ends it, with others attached. Those are checked as far
as they are switches. -/
def endAttached (table : Table) (ending : Ending) (rest : List Word) : List Char → Ending
  | [] => ending
  | c :: cs =>
    if c == '-' then .refused
    else match table.lookup (String.ofList ['-', c]) with
      | none => ending
      | some w =>
        if w.takesValue then
          if cs.isEmpty && (valueOf .nothing rest).toOption.isNone then .refused else ending
        else if cs.head? == some '=' then .refused
        else endAttached table ending rest cs

/-- How reading ends at a switch that ends it. -/
def endAt (table : Table) (ending : Ending) (given : Given) (rest : List Word) : Ending :=
  match given with
  | .nothing => ending
  | .attached s => endAttached table ending rest s
  | .assigned _ => .refused

/-- What was read of the words of a subcommand. `odd` says that some of them are not asked for. -/
structure Progress where
  template : Option String := none
  context : Option String := none
  assignments : List String := []
  odd : Bool := false
  deriving Inhabited

/-- Reads the words of a subcommand. The template takes two dashes beside it along. -/
def readWords (sub : Subcommand) (p : Progress) : (fuel : Nat) → List Word →
    Except Ending Progress
  | 0, _ | _, [] => .ok p
  | fuel + 1, w :: rest =>
    match w with
    | .argument s =>
      if p.template.isNone then
        -- Two dashes right behind the template belong to it; elsewhere they are odd.
        let rest := match rest with
          | .separator :: rest => rest
          | rest => rest
        readWords sub { p with template := some s } fuel rest
      else readWords sub { p with odd := true } fuel rest
    | .separator =>
      if p.template.isNone && !rest.isEmpty then readWords sub p fuel rest
      else readWords sub { p with odd := true } fuel rest
    | .unknown => readWords sub { p with odd := true } fuel rest
    | .switch .context given => do
      let (value, rest) ← valueOf given rest
      readWords sub { p with context := some value } fuel rest
    | .switch .set given => do
      let (value, rest) ← valueOf given rest
      readWords sub { p with assignments := p.assignments ++ [value] } fuel rest
    | .switch _ given => .error (endAt (subcommandTable sub) (.help (some sub)) given rest)

/-- Reads what stands behind the name of a subcommand. -/
def readSubcommand (sub : Subcommand) (r : Request) (odd : Bool) (texts : List String) :
    Except Ending Request := do
  match (subcommandTable sub).words? texts with
  | none => throw .refused
  | some ws =>
    let p ← readWords sub { odd := odd } ws.length ws
    match p.template with
    | none => throw .refused
    | some template =>
      if p.odd then throw .refused
      return { r with
        subcommand := sub, template := template, context := p.context, assignments := p.assignments }

/-- Reads the words of a command line, of which `texts` are what is left. -/
def readProgram (r : Request) (odd : Bool) : (fuel : Nat) → List Word → (texts : List String) →
    Except Ending Request
  | 0, _, _ | _, [], _ => .error .refused
  | fuel + 1, w :: rest, texts =>
    match w with
    | .argument s =>
      match Subcommand.ofName? s with
      | some sub => readSubcommand sub r odd texts.tail
      | none => .error .refused
    | .separator => .error .refused
    | .unknown => readProgram r true fuel rest texts.tail
    | .switch .config given => do
      let (value, after) ← valueOf given rest
      readProgram { r with config := some value } odd fuel after
        (texts.drop (1 + (rest.length - after.length)))
    | .switch .verbose .nothing => readProgram { r with verbose := true } odd fuel rest texts.tail
    | .switch .verbose _ => .error .refused
    | .switch .version given => .error (endAt programTable .version given rest)
    | .switch _ given => .error (endAt programTable (.help none) given rest)

/-- Reads a command line. -/
def Request.read (texts : List String) : Except Ending Request :=
  match programTable.words? texts with
  | none => .error .refused
  | some ws => readProgram default false ws.length ws texts

end Curly.Command
