import Std.Data.TreeMap
import ScenarioTables.Scenario.Basic

/-!
# The scenarios of a document

Scenarios are registered under names. A name that is used again takes the new scenario; nothing is
ever taken out. A registry is a map from names to scenarios beside a list of the names in the order
in which they were first used. A row of cells invokes the scenario whose name its fragments spell,
or else the first scenario, in the order of the list, that the whole row fits as a phrase.

That the map and the list stay in step is not part of the type: it is a property of the registries
that registrations make.
-/

set_option autoImplicit false

namespace ScenarioTables

/-- Scenarios under their names, and the names in the order of their first registration. -/
structure Registry where
  /-- The scenario that stands under each name. -/
  scenarios : Std.TreeMap String Scenario
  /-- The names as they were first used. -/
  order : List String

namespace Registry

/-- The registry without scenarios. -/
def empty : Registry := ⟨∅, []⟩

/-- The scenario under a name. -/
def find? (registry : Registry) (name : String) : Option Scenario :=
  registry.scenarios[name]?

/-- The scenarios that stand under the names of the order, one after another. -/
def all (registry : Registry) : List Scenario :=
  registry.order.filterMap registry.find?

/-- The number of names with a scenario. -/
def size (registry : Registry) : Nat :=
  registry.scenarios.size

/-- Whether no scenario is there. -/
def isEmpty (registry : Registry) : Bool :=
  registry.scenarios.isEmpty

/-- Registers a scenario under a name; answers the scenario whose place it takes, if any. Only a
name that had no scenario goes to the end of the order. -/
def register (registry : Registry) (name : String) (scenario : Scenario) :
    Option Scenario × Registry :=
  let previous := registry.find? name
  (previous,
    { scenarios := registry.scenarios.insert name scenario
      order := if previous.isNone then registry.order ++ [name] else registry.order })

/-- The registry that some registrations make, one after another. -/
def ofList (registrations : List (String × Scenario)) : Registry :=
  registrations.foldl (fun registry registration =>
    (registry.register registration.1 registration.2).2) empty

/-- The cells of a row as one phrase. -/
def phraseOf (cells : List String) : String :=
  Text.trimmed (Cells.joined cells)

/-- The first scenario that a phrase fits, with the arguments that the phrase gives to it. -/
def findPhrase? (registry : Registry) (phrase : String) : Option (Scenario × List String) :=
  registry.all.findSome? fun scenario =>
    (scenario.captures? phrase).map fun arguments => (scenario, arguments)

/-- The scenario that a row invokes, with the arguments that the row gives to it. -/
def resolve? (registry : Registry) (cells : List String) : Option (Scenario × List String) :=
  match registry.find? (Identifier.className (Cells.spelledName cells)) with
  | some scenario => some (scenario, Cells.spelledArguments cells)
  | none => registry.findPhrase? (phraseOf cells)

@[simp] theorem find?_empty (name : String) : empty.find? name = none :=
  Std.TreeMap.getElem?_emptyc

@[simp] theorem size_empty : empty.size = 0 :=
  Std.TreeMap.size_emptyc

/-- Reading after registering gives the new scenario under its name and the old ones elsewhere. -/
theorem find?_register (registry : Registry) (name other : String) (scenario : Scenario) :
    (registry.register name scenario).2.find? other
      = if name = other then some scenario else registry.find? other := by
  simp only [register, find?, Std.TreeMap.getElem?_insert, Std.compare_eq_iff_eq]

/-- The order grows by the names that are new to the map. -/
theorem order_register (registry : Registry) (name : String) (scenario : Scenario) :
    (registry.register name scenario).2.order
      = if (registry.find? name).isSome then registry.order else registry.order ++ [name] := by
  cases hprevious : registry.find? name <;> simp [register, hprevious]

/-- The map grows by one entry exactly if the name is new to it. -/
theorem size_register (registry : Registry) (name : String) (scenario : Scenario) :
    (registry.register name scenario).2.size
      = if (registry.find? name).isSome then registry.size else registry.size + 1 := by
  have hcontains : registry.scenarios.contains name = (registry.find? name).isSome :=
    Std.TreeMap.contains_eq_isSome_getElem?
  refine Std.TreeMap.size_insert.trans ?_
  simp only [hcontains, size]

end Registry

end ScenarioTables
