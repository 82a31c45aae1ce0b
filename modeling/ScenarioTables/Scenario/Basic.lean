import ScenarioTables.Expansion
import ScenarioTables.Header

/-!
# Scenarios

A scenario is a table that is not carried out where it stands: its first row declares a name and
arguments, and its other rows are carried out by each call, with the arguments put in.
-/

set_option autoImplicit false

namespace ScenarioTables

/-- A declared scenario. -/
structure Scenario where
  tableId : String
  /-- All rows of the declaring table, the header included. -/
  rows : List (List String)
  /-- What the first row declares. -/
  header : Header

namespace Scenario

/-- The scenario that a table declares. -/
def ofRows? (tableId : String) (rows : List (List String)) : Except Fault Scenario :=
  (Header.ofRows? rows).map fun header => ⟨tableId, rows, header⟩

/-- The name under which a scenario is registered. -/
def name (scenario : Scenario) : String :=
  scenario.header.name

/-- The arguments that a phrase gives to a scenario, if it invokes it. -/
def captures? (scenario : Scenario) (phrase : String) : Option (List String) :=
  scenario.header.captures? phrase

/-- The rows of a scenario with the values of a binding put in. -/
def expand (scenario : Scenario) (binding : Binding) : Except Fault (List (List String)) :=
  Expansion.expand scenario.rows scenario.header.inputs binding

/-- The values bound to a scenario's inputs by position. -/
def bindPositional (scenario : Scenario) (values : List String) : Binding :=
  Binding.positional scenario.header.inputs values

/-- The values bound to a scenario's inputs by name. -/
def bindNamed (scenario : Scenario) (values : Dictionary String String) : Except Fault Binding :=
  Binding.named scenario.header.inputs values

/-- Whether a scenario hands out values. -/
def declaresOutputs (scenario : Scenario) : Bool :=
  !scenario.header.outputs.isEmpty

end Scenario

end ScenarioTables
