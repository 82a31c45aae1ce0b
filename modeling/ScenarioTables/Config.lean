import ScenarioTables.Fault
import ScenarioTables.Text.Blank
import ScenarioTables.Yaml.Node

/-!
# Configuration

The configuration of a run: the kind of interpreter for the rows of a scenario whose caller's kind
is not available, and the level of logging. It is read from a YAML mapping, in which other keys do
not matter and missing ones take their defaults; the environment can override both.
-/

set_option autoImplicit false

namespace ScenarioTables

/-- The configuration of a run. -/
structure Config where
  /-- The kind of interpreter for callers of a kind that the factory does not make. -/
  defaultChildKind : String
  /-- The level of logging, by name or number. -/
  logLevel : String
  deriving DecidableEq, Repr

namespace Config

/-- The default child kind of a process in which none is installed. -/
def defaultKind : String := "script"

/-- The configuration that nothing is said about. -/
def default : Config := ⟨defaultKind, "info"⟩

/-- The key of the default child kind. -/
def kindKey : String := "default_child_kind"

/-- The key of the level of logging. -/
def levelKey : String := "log_level"

/-- The environment variable that overrides the default child kind. -/
def kindVariable : String := "SCENA_DEFAULT_CHILD_KIND"

/-- The environment variable that overrides the level of logging. -/
def levelVariable : String := "SCENA_LOG"

/-- Fills the configuration from pairs of a key and a value. Keys must mean scalars; the values of
the two known keys must mean scalars too, and neither key may stand twice. -/
def ofEntries? (graph : Yaml.Graph) (kind level : Option String) :
    List (Yaml.Node × Yaml.Node) → Option Config
  | [] => some ⟨kind.getD default.defaultChildKind, level.getD default.logLevel⟩
  | (key, value) :: rest =>
    (graph.text? key).bind fun key =>
      if key = kindKey then
        if kind.isSome then none
        else (graph.text? value).bind fun text => ofEntries? graph (some text) level rest
      else if key = levelKey then
        if level.isSome then none
        else (graph.text? value).bind fun text => ofEntries? graph kind (some text) rest
      else ofEntries? graph kind level rest

/-- The configuration of a YAML text's node: a mapping, or nothing at all. -/
def ofGraph? : Option Yaml.Graph → Option Config
  | none => some default
  | some graph =>
    match graph.root with
    | .mapping entries => ofEntries? graph none none entries
    | .scalar "" true => some default
    | _ => none

/-- The configuration of a YAML text. -/
def ofYaml (text : String) : Except Fault Config :=
  match (Yaml.read? text).bind ofGraph? with
  | some config => .ok config
  | none => .error .malformedConfiguration

/-- The configuration of a file, given what reading the file gave. -/
def ofFile (content : Except ReadFailure String) : Except Fault Config :=
  match content with
  | .ok text => ofYaml text
  | .error failure => .error (.unreadableConfiguration failure)

/-- The value of a variable without blanks at its ends; a blank value does not count. -/
def override? (lookup : String → Option String) (name : String) : Option String :=
  ((lookup name).map Text.trimmed).filter (· ≠ "")

/-- The configuration with the overrides of an environment. -/
def override (config : Config) (lookup : String → Option String) : Config :=
  ⟨(override? lookup kindVariable).getD config.defaultChildKind,
    (override? lookup levelVariable).getD config.logLevel⟩

end Config

end ScenarioTables
