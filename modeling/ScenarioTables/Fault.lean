/-!
# Faults

What can go wrong while tables are read, scenarios called and a configuration installed. A fault is
a cause; its category and its wording are functions of the cause. Interpreters and fixtures from
outside report faults of their own with `reported`.
-/

set_option autoImplicit false

namespace ScenarioTables

/-- The four categories of faults. -/
inductive FaultCategory where
  /-- The text of a table is not well formed. -/
  | wording
  /-- No interpreter could be made for a table. -/
  | table
  /-- The configuration cannot be read or installed. -/
  | configuration
  /-- The fixture side failed. -/
  | execution
  deriving DecidableEq, Repr

/-- The label that stands in front of a fault's wording. -/
def FaultCategory.label : FaultCategory → String
  | .wording => "SYNTAX"
  | .table => "TABLE"
  | .configuration => "CONFIG"
  | .execution => "EXEC"

/-- Why a file could not be read. -/
inductive ReadFailure where
  | missing
  | directory
  /-- The path goes on behind a file. -/
  | notDirectory
  | longName
  | nullCharacter
  deriving DecidableEq, Repr

/-- The system's wording of a read failure. -/
def ReadFailure.message : ReadFailure → String
  | .missing => "No such file or directory (os error 2)"
  | .directory => "Is a directory (os error 21)"
  | .notDirectory => "Not a directory (os error 20)"
  | .longName => "File name too long (os error 36)"
  | .nullCharacter => "file name contained an unexpected NUL byte"

/-- A cause of failure. -/
inductive Fault where
  /-- A scenario table whose first row has no name cell. -/
  | unnamedScenario
  /-- A call binds a name that the scenario does not declare as an input. -/
  | undeclaredArgument (name : String)
  /-- The first cell of a table names no known type of table. -/
  | unknownTableType (kind tableId : String)
  /-- The factory makes no interpreters of this kind. -/
  | noInterpreter (kind : String)
  /-- A default child kind is in force already, so this one is refused. -/
  | kindAlreadyInstalled (kind : String)
  /-- The configuration file could not be read. -/
  | unreadableConfiguration (failure : ReadFailure)
  /-- The text of the configuration is not a configuration. -/
  | malformedConfiguration
  /-- A fault that an interpreter or a fixture from outside reports in its own words. -/
  | reported (category : FaultCategory) (message : String)
  deriving DecidableEq, Repr

namespace Fault

/-- The category of a fault. -/
def category : Fault → FaultCategory
  | .unnamedScenario => .wording
  | .undeclaredArgument _ => .wording
  | .unknownTableType _ _ => .table
  | .noInterpreter _ => .table
  | .kindAlreadyInstalled _ => .configuration
  | .unreadableConfiguration _ => .configuration
  | .malformedConfiguration => .configuration
  | .reported category _ => category

/-- The wording of a fault. -/
def message : Fault → String
  | .unnamedScenario => "Scenario tables must have a name."
  | .undeclaredArgument name => "The argument " ++ name ++ " is not an input to the scenario."
  | .unknownTableType kind tableId => "unknown table type '" ++ kind ++ "' in " ++ tableId
  | .noInterpreter kind => "no interpreter registered for kind '" ++ kind ++ "'"
  | .kindAlreadyInstalled kind =>
    "default child kind already installed; refusing '" ++ kind ++ "'"
  | .unreadableConfiguration failure => "Failed to read config file: " ++ failure.message
  | .malformedConfiguration => "Failed to parse config YAML"
  | .reported _ message => message

/-- The full text of a fault: its category's label, a slash and its wording. -/
def text (fault : Fault) : String :=
  fault.category.label ++ "/" ++ fault.message

end Fault

end ScenarioTables
