import ScenarioTables.Board
import ScenarioTables.Judge

/-!
# Expectations

What judges the reply to an instruction of a document. A script row reports its verdict in its
scope and marks itself. The roll-up of a scenario call comes behind everything that the call
expands to: it ignores its reply, reads the verdict of the call's scope and marks the calling row
with it, unless the scenario hands out values and nothing went wrong. Interpreters from outside
bring expectations of their own. An expectation has no result when a count would overflow.
-/

set_option autoImplicit false

namespace ScenarioTables

/-- What judges the reply to an instruction. -/
inductive Expectation where
  /-- The judge of a script row, which stands in the table at the address and counts in the scope.
  -/
  | row (judge : Judge) (table : Address) (row : Nat) (scope : Scope)
  /-- The roll-up of the call whose scope is given onto the calling row; there is no calling table
  when the call's interpreter does not know it. -/
  | rollUp (scope : Scope) (table : Option Address) (row : Nat) (declaresOutputs : Bool)
  /-- An expectation that an interpreter from outside brings along. -/
  | external (evaluate : Reply → Board → Option (Option Verdict × Board))

namespace Expectation

/-- Judges a script row's reply. -/
def evaluateRow (judge : Judge) (table : Address) (row : Nat) (scope : Scope) (reply : Reply)
    (board : Board) : Option (Option Verdict × Board) :=
  match judge.verdict? reply with
  | none => some (none, board)
  | some verdict =>
    (board.ledger.report scope verdict).map fun ledger =>
      (some verdict, { board with ledger := ledger }.mark table row verdict)

/-- Reads the verdict of a call and hands it to the calling row. -/
def evaluateRollUp (scope : Scope) (table : Option Address) (row : Nat) (declaresOutputs : Bool)
    (board : Board) : Option Verdict × Board :=
  let (verdict, ledger) := board.ledger.readVerdict scope
  let closed := { board with ledger := ledger }
  if declaresOutputs ∧ verdict = .pass then (none, closed)
  else
    match table with
    | some address => (some verdict, closed.mark address row verdict)
    | none => (some verdict, closed)

/-- Judges a reply. -/
def evaluate : Expectation → Reply → Board → Option (Option Verdict × Board)
  | .row judge table index scope, reply, board => evaluateRow judge table index scope reply board
  | .rollUp scope table index declaresOutputs, _, board =>
    some (evaluateRollUp scope table index declaresOutputs board)
  | .external evaluate, reply, board => evaluate reply board

end Expectation

end ScenarioTables
