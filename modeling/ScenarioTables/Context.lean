import ScenarioTables.Ledger
import ScenarioTables.Scenario.Registry

/-!
# The context of a document

What the tables of one document share: symbols, scenarios and the ledger. Calls have accounts of
their own in the ledger, but symbols and scenarios are always those of the document.
-/

set_option autoImplicit false

namespace ScenarioTables

/-- The state that the tables of one document share. -/
structure Context where
  symbols : Dictionary String String
  scenarios : Registry
  ledger : Ledger

namespace Context

/-- The context of a new document. -/
def empty : Context := ⟨.empty, .empty, .empty⟩

/-- The value of a symbol. -/
def symbol? (context : Context) (name : String) : Option String :=
  context.symbols.find? name

/-- Gives a value to a symbol. -/
def setSymbol (context : Context) (name value : String) : Context :=
  { context with symbols := context.symbols.insert name value }

/-- Registers a scenario under a name. -/
def register (context : Context) (name : String) (scenario : Scenario) : Context :=
  { context with scenarios := (context.scenarios.register name scenario).2 }

/-- Registers the scenario that a table declares under its own name. -/
def define (context : Context) (tableId : String) (rows : List (List String)) :
    Except Fault (Scenario × Context) :=
  (Scenario.ofRows? tableId rows).map fun scenario =>
    (scenario, context.register scenario.name scenario)

end Context

end ScenarioTables
