import ScenarioTables.Interpreter
import ScenarioTables.Text.Case

/-!
# Scripts

The rows of a script below its first are carried out one by one. A row is a note, an action whose
reply is judged, or a call of a scenario. In an action and in a call fragments of a name alternate
with arguments. The instructions of a script are numbered in order; calls take no number.
-/

set_option autoImplicit false

namespace ScenarioTables.Script

/-- The kind of table that is a script. -/
def kindName : String := "script"

/-- The actor that all actions of scripts address. -/
def actor : String := "scriptTableActor"

/-- What a row of a script says. -/
inductive Row where
  | note
  /-- Carry out an action, given by its cells, and judge the reply. -/
  | action (judge : Judge) (cells : List String)
  /-- Call a scenario with arguments. -/
  | call (scenario : Scenario) (arguments : List String)

/-- The row without a keyword: a call if it invokes a scenario, and an action otherwise. -/
def Row.ofPlainCells (scenarios : Registry) (cells : List String) : Row :=
  match scenarios.resolve? cells with
  | some (scenario, arguments) => .call scenario arguments
  | none => .action .action cells

/-- The keyword of a row: its first cell in lower case, without blanks at its ends. -/
def keywordOf (cells : List String) : String :=
  (cells.head?.map fun cell => Text.lowered (Text.trimmed cell)).getD ""

/-- What a row says. A keyword counts only if the cells behind it suffice. -/
def Row.ofCells (scenarios : Registry) (cells : List String) : Row :=
  let keyword := keywordOf cells
  if keyword = "" ∨ keyword = "note" then .note
  else if keyword = "check" ∧ 3 ≤ cells.length then
    .action (.check (cells.getLast?.getD "")) (cells.tail.dropLast)
  else if keyword = "ensure" ∧ 2 ≤ cells.length then .action .ensure cells.tail
  else if keyword = "reject" ∧ 2 ≤ cells.length then .action .reject cells.tail
  else .ofPlainCells scenarios cells

/-- The assertion of an action, which is the script's instruction of the given number. -/
def actionCheck (assignment : Assignment) (row number : Nat) (judge : Judge) (cells : List String) :
    Check :=
  ⟨.call (assignment.tableId ++ "_" ++ toString number) actor
      (Identifier.methodName (Cells.spelledName cells)) (Cells.spelledArguments cells),
    .row judge assignment.table row assignment.scope⟩

/-- The site of a call in a row of a script. -/
def siteOf (assignment : Assignment) (row : Nat) : CallSite :=
  { table := assignment.table
    tableId := assignment.tableId
    kind := assignment.kind
    row
    scope := assignment.scope }

/-- The assertions of the rows from number `row` on, where `number` instructions went before. -/
def assertionsFrom (assignment : Assignment) (expander : Expander) :
    Nat → Nat → List (List String) → Build (List Check)
  | _, _, [] => return []
  | row, number, cells :: rest =>
    match Row.ofCells expander.scenarios cells with
    | .note => assertionsFrom assignment expander (row + 1) number rest
    | .action judge action => do
      let checks ← assertionsFrom assignment expander (row + 1) (number + 1) rest
      return actionCheck assignment row number judge action :: checks
    | .call scenario arguments => do
      let block ← expander.call scenario (scenario.bindPositional arguments)
        (siteOf assignment row)
      let checks ← assertionsFrom assignment expander (row + 1) number rest
      return block ++ checks

/-- The interpreter of a script. -/
def interpreter (assignment : Assignment) : Interpreter where
  kind := assignment.kind
  table := Table.ofRows assignment.rows
  parent := assignment.parent
  assertions expander := assertionsFrom assignment expander 1 0 assignment.rows.tail

/-- Makes interpreters of scripts. -/
def constructor : Constructor := fun assignment => .ok (interpreter assignment)

/-- The factory that makes interpreters of scripts only. -/
def factory : Factory := Dictionary.ofList [(kindName, constructor)]

end ScenarioTables.Script
