import ScenarioTables.Expectation
import ScenarioTables.Interpreter
import ScenarioTables.Runner

/-!
# Running the assertions of a document

The assertions of a document run against a board. The fixture side is a state machine of its own: it
gets one instruction at a time and answers. A run has no result when a count would overflow.
-/

set_option autoImplicit false

namespace ScenarioTables

/-- What answers instructions and keeps a state of its own. -/
abbrev Fixture (σ : Type) := Instruction → σ → Except Fault (Option String) × σ

/-- A run over the state of a fixture side and a board; it has no result on overflow. -/
abbrev BoardRun (σ : Type) := StateT (σ × Board) Option

namespace BoardRun

variable {σ : Type}

/-- Sends an instruction to the fixture side. -/
def invoke (fixture : Fixture σ) (instruction : Instruction) :
    BoardRun σ (Except Fault (Option String)) := fun (state, board) =>
  let (answer, state) := fixture instruction state
  some (answer, state, board)

/-- Judges a reply on the board. -/
def evaluate (expectation : Expectation) (reply : Reply) : BoardRun σ (Option Verdict) :=
  fun (state, board) =>
    (expectation.evaluate reply board).map fun (verdict, board) => (verdict, state, board)

end BoardRun

/-- The outcomes of assertions, with the fixture side and the board as the run leaves them. -/
def runChecks {σ : Type} (fixture : Fixture σ) (checks : List Check) (state : σ) (board : Board) :
    Option (List Outcome × σ × Board) :=
  (runAssertions (BoardRun.invoke fixture) BoardRun.evaluate checks).run (state, board)

end ScenarioTables
