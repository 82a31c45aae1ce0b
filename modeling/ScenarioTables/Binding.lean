import ScenarioTables.Dictionary
import ScenarioTables.Fault
import ScenarioTables.NameSet

/-!
# Argument bindings

A call gives values to inputs of a scenario, by name or by position. A binding by name may use
declared inputs only; of several names that are not declared the least is reported.
-/

set_option autoImplicit false

namespace ScenarioTables

/-- The values that a call gives to names. -/
abbrev Binding := Dictionary String String

namespace Binding

/-- The least bound name that is not among the inputs. -/
def undeclared? (binding : Binding) (inputs : List String) : Option String :=
  (NameSet.ofList binding.keys).names.find? fun name => !inputs.contains name

/-- A binding by name, refused if it names anything but an input. -/
def named (inputs : List String) (values : Dictionary String String) : Except Fault Binding :=
  match undeclared? values inputs with
  | some name => .error (.undeclaredArgument name)
  | none => .ok values

/-- A binding by position: values meet inputs in order as long as there are both. When a name is
declared twice, its later value counts. -/
def positional (inputs values : List String) : Binding :=
  Dictionary.ofList (inputs.zip values)

end Binding

end ScenarioTables
