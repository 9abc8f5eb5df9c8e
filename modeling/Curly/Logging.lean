import Curly.Text.Unicode.Case

/-!
Logging: how much is reported. Levels have names and numbers; what is below the level of a logger
is not reported.
-/

namespace Curly

/-- Levels of reports. -/
inductive LogLevel
  | critical
  | error
  | warning
  | info
  | debug
  /-- No level of its own. -/
  | unset
  deriving DecidableEq, Inhabited

namespace LogLevel

/-- The number of a level. -/
def number : LogLevel → Nat
  | .critical => 50
  | .error => 40
  | .warning => 30
  | .info => 20
  | .debug => 10
  | .unset => 0

/-- The names of levels. -/
def names : List (String × LogLevel) :=
  [("CRITICAL", .critical), ("FATAL", .critical), ("ERROR", .error), ("WARNING", .warning),
    ("WARN", .warning), ("INFO", .info), ("DEBUG", .debug), ("NOTSET", .unset)]

/-- The level with a name in any case. A name that no level has is that of warnings. -/
def ofName (name : String) : LogLevel :=
  (names.lookup (String.ofList (Text.Unicode.toUpper name.toList))).getD .warning

/-- The level that is asked for by its name, or in full. -/
def choose (name : Option String) (full : Bool) : LogLevel :=
  if full then .debug else ofName (name.getD "")

/-- Whether details are reported. Without a level of its own a logger reports warnings. -/
def isDetailed (l : LogLevel) : Bool := l == .debug

end LogLevel

/-- A logger: its level, and how many receivers it reports to. -/
structure Logger where
  level : LogLevel
  receivers : Nat := 0
  deriving DecidableEq, Inhabited

/-- Sets the level of a logger, and gives it a receiver if it has none. -/
def Logger.setUp (l : Logger) (name : Option String) (full : Bool) : Logger :=
  ⟨.choose name full, if l.receivers = 0 then 1 else l.receivers⟩

/-- Setting a logger up again does not add receivers. -/
theorem Logger.receivers_setUp_setUp (l : Logger) (a b : Option String) (f g : Bool) :
    ((l.setUp a f).setUp b g).receivers = (l.setUp a f).receivers := by
  simp only [setUp]
  split <;> simp_all

end Curly
