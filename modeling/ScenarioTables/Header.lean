import ScenarioTables.Cells
import ScenarioTables.Fault
import ScenarioTables.Identifier
import ScenarioTables.NameSet
import ScenarioTables.NameTemplate.Filling

/-!
# Scenario headers

The first row of a scenario table declares its name and its arguments. In the parameterized layout
one cell holds the name with placeholders and the next the arguments, separated by commas; in the
alternating layout fragments of the name and arguments take turns. An argument that ends in a
question mark is an output, any other an input. Inputs keep their order, because calls bind them by
position.
-/

set_option autoImplicit false

namespace ScenarioTables

/-- A declared argument under its method-style name. -/
inductive Argument where
  /-- A value that a call hands in. -/
  | input (name : String)
  /-- A value that the scenario hands out. -/
  | output (name : String)
  deriving DecidableEq, Repr

namespace Argument

/-- The argument that the text of a declaration stands for; one question mark at its end makes it an
output. -/
def ofText (text : String) : Argument :=
  match (Text.trim text.toList).reverse with
  | '?' :: reversed => .output (Identifier.methodName (String.ofList reversed.reverse))
  | reversed => .input (Identifier.methodName (String.ofList reversed.reverse))

/-- The name, if it is an input. -/
def input? : Argument → Option String
  | .input name => some name
  | .output _ => none

/-- The name, if it is an output. -/
def output? : Argument → Option String
  | .input _ => none
  | .output name => some name

end Argument

/-- What a scenario table declares in its first row. -/
structure Header where
  /-- The class-style name under which the scenario is registered. -/
  name : String
  /-- The names of the inputs in the order of declaration. -/
  inputs : List String
  outputs : NameSet
  /-- Whether the name cell holds placeholders. -/
  parameterized : Bool
  nameCells : List String

namespace Header

/-- The pieces of a text between commas, without the blank ones at the end. -/
def argumentTexts (cell : String) : List String :=
  (((cell.toList.splitOnP (· == ',')).reverse.dropWhile
    fun piece => (Text.trim piece).isEmpty).reverse).map String.ofList

/-- The header with a given name and the given declarations. -/
def declare (name : String) (parameterized : Bool) (nameCells declarations : List String) :
    Header :=
  let arguments := declarations.map Argument.ofText
  { name
    inputs := arguments.filterMap Argument.input?
    outputs := NameSet.ofList (arguments.filterMap Argument.output?)
    parameterized
    nameCells }

/-- The header in the parameterized layout, from the name cell and the cells behind it; the first of
these holds the arguments. -/
def ofParameterized (nameCell : String) (rest : List String) : Header :=
  declare (Identifier.className (NameTemplate.parse nameCell).unparameterized) true [nameCell]
    ((rest.head?.map argumentTexts).getD [])

/-- The header in the alternating layout, from all cells behind the first. -/
def ofAlternating (cells : List String) : Header :=
  declare (Identifier.className (Cells.spelledName cells)) false (Cells.fragments cells)
    (Cells.arguments cells)

/-- The header of a first row. -/
def ofCells? : List String → Except Fault Header
  | _ :: nameCell :: rest =>
    if (NameTemplate.parse nameCell).isParameterized then
      .ok (ofParameterized nameCell rest)
    else
      .ok (ofAlternating (nameCell :: rest))
  | _ => .error .unnamedScenario

/-- The header of a table; a table without rows has no name. -/
def ofRows? (rows : List (List String)) : Except Fault Header :=
  ofCells? (rows.head?.getD [])

/-- Whether a name is declared as an input. -/
def isInput (header : Header) (name : String) : Bool :=
  header.inputs.contains name

/-- The template that a phrase has to fit to invoke the scenario. A scenario whose name has neither
placeholders nor inputs between its cells is invoked by its name alone and has no template. -/
def template? (header : Header) : Option NameTemplate :=
  if header.parameterized then
    header.nameCells.head?.map NameTemplate.parse
  else if header.inputs.isEmpty then none
  else some (NameTemplate.alternating header.nameCells)

/-- The arguments that a phrase gives to the scenario, if it invokes it. -/
def captures? (header : Header) (phrase : String) : Option (List String) :=
  header.template?.bind (·.captures phrase)

end Header

end ScenarioTables
