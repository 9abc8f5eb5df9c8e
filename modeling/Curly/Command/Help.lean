import Curly.Command.Request

/-!
What the program says of itself: its version, and how it is called.
-/

namespace Curly.Command

/-- The name of the program. -/
def programName : String := "stache"

/-- The version of the program. -/
def versionNumber : String := "0.1.0"

/-- The line that tells the version. -/
def versionText : String := s!"{programName} {versionNumber}\n"

/-- The switch that every parser has, in the list of switches. -/
def helpSwitch : String := "-h, --help"

/-- What the switch for help does. -/
def helpEffect : String := "show this help message and exit"

/-- The lines for the template. -/
def templateEffect : String := "template file, or - for stdin"

/-- How the program is called. -/
def programHelp : String :=
  let commands := "\x7brender,compile,tokens,ast\x7d"
  "usage: stache [-h] [-v] [--config FILE] [--verbose]\n" ++
  s!"              {commands} ...\n\n" ++
  "stache: compile and render \x7b\x7bmustache\x7d\x7d-style templates\n\n" ++
  "positional arguments:\n" ++
  s!"  {commands}\n" ++
  "    render              render a template with a context\n" ++
  "    compile             print the generated Python source\n" ++
  "    tokens              token list (JSON)\n" ++
  "    ast                 syntax tree (JSON)\n\n" ++
  "options:\n" ++
  s!"  {helpSwitch}            {helpEffect}\n" ++
  "  -v, --version         show program's version number and exit\n" ++
  "  --config FILE         configuration file (default: ./stache.yaml if present)\n" ++
  "  --verbose             debug logging to stderr\n"

/-- How a subcommand is called. -/
def subcommandHelp (sub : Subcommand) : String :=
  match sub with
  | .render =>
    "usage: stache render [-h] [--context FILE] [--set KEY=VALUE] TEMPLATE\n\n" ++
    "positional arguments:\n" ++
    s!"  TEMPLATE              {templateEffect}\n\n" ++
    "options:\n" ++
    s!"  {helpSwitch}            {helpEffect}\n" ++
    "  --context FILE, -c FILE\n" ++
    "                        YAML or JSON file with the context mapping\n" ++
    "  --set KEY=VALUE       set a context value (dotted keys allowed, can be\n" ++
    "                        repeated)\n"
  | sub =>
    s!"usage: stache {sub.name} [-h] TEMPLATE\n\n" ++
    "positional arguments:\n" ++
    s!"  TEMPLATE    {templateEffect}\n\n" ++
    "options:\n" ++
    s!"  {helpSwitch}  {helpEffect}\n"

/-- What is printed where reading a command line ends without a request. -/
def Ending.output : Ending → String
  | .help none => programHelp
  | .help (some sub) => subcommandHelp sub
  | .version => versionText
  | .refused => ""

/-- The code that the program ends with where reading a command line ends without a request. -/
def Ending.code : Ending → Nat
  | .refused => 2
  | .help _ | .version => 0

end Curly.Command
