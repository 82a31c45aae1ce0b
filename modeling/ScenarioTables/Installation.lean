import ScenarioTables.Config
import ScenarioTables.Text.Digits

/-!
# What is installed once

Two things are set for a whole process: the default child kind and the logging. The first kind stays
in force. Logging begins once, at some level; beginning it again keeps what is shown at that level
and shows what the new level asks for besides. Installing a configuration begins logging first and
then sets the kind, and fails if a kind is in force already.
-/

set_option autoImplicit false

namespace ScenarioTables

/-- A level of logging; each shows what the ones before it show. -/
inductive LogLevel where
  | error
  | warn
  | info
  | debug
  | trace
  deriving DecidableEq, Repr

namespace LogLevel

/-- The name of a level. -/
def name : LogLevel → String
  | .error => "ERROR"
  | .warn => "WARN"
  | .info => "INFO"
  | .debug => "DEBUG"
  | .trace => "TRACE"

/-- The levels from the quietest on. -/
def all : List LogLevel := [.error, .warn, .info, .debug, .trace]

/-- The number of a level, from 1, the quietest. -/
def rank : LogLevel → Nat
  | .error => 1
  | .warn => 2
  | .info => 3
  | .debug => 4
  | .trace => 5

/-- The level of two that shows more. -/
def louder (a b : LogLevel) : LogLevel :=
  if a.rank < b.rank then b else a

/-- The level of a text: a number from 1, the quietest, to 5, or a name in any case of its letters.
-/
def parse? (text : String) : Option LogLevel :=
  let cs := Text.trim text.toList
  match Text.signedDecimal? cs with
  | some n => all.find? (·.rank == n)
  | none => all.find? fun level => level.name.toList == cs.map Char.toUpper

end LogLevel

/-- Logging that has begun. -/
structure Logging where
  /-- The level at which it first began. -/
  first : LogLevel
  /-- The level in force. -/
  current : LogLevel
  deriving DecidableEq, Repr

/-- What is installed for a whole process. -/
structure Installation where
  /-- The default child kind, if one was installed. -/
  childKind : Option String
  /-- The logging, if it was begun. -/
  logging : Option Logging
  deriving DecidableEq, Repr

namespace Installation

/-- A process in which nothing is set. -/
def fresh : Installation := ⟨none, none⟩

/-- The default child kind in force. -/
def defaultKind (installed : Installation) : String :=
  installed.childKind.getD Config.defaultKind

/-- Installs a default child kind, unless one is installed. -/
def installKind (installed : Installation) (kind : String) : Except Fault Unit × Installation :=
  match installed.childKind with
  | none => (.ok (), { installed with childKind := some kind })
  | some _ => (.error (.kindAlreadyInstalled kind), installed)

/-- The level of logging in force, if logging was begun. -/
def level (installed : Installation) : Option LogLevel :=
  installed.logging.map (·.current)

/-- Begins logging at a level, or at `INFO` if the text is none; answers whether this was the first
time. What the first level shows is shown from then on. -/
def beginLogging (installed : Installation) (text : String) : Bool × Installation :=
  let level := (LogLevel.parse? text).getD .info
  match installed.logging with
  | none => (true, { installed with logging := some ⟨level, level⟩ })
  | some logging =>
    let again := { logging with current := logging.first.louder level }
    (false, { installed with logging := some again })

/-- Installs a configuration. -/
def install (installed : Installation) (config : Config) : Except Fault Unit × Installation :=
  (installed.beginLogging config.logLevel).2.installKind config.defaultChildKind

end Installation

end ScenarioTables
