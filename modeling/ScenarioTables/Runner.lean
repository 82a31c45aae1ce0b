import ScenarioTables.Assertion

/-!
# Running assertions

Assertions are carried out strictly one after another: the instruction is sent unless it does
nothing, and its expectation judges the reply. A fault of the fixture side is a reply like any other
and never ends the run. The fixture side and the expectations may share any state: they are actions
of one monad, and the run is the sequence of these actions.
-/

set_option autoImplicit false

namespace ScenarioTables

variable {m : Type → Type} [Monad m] {ε : Type}

/-- Carries out one assertion. -/
def Assertion.perform (invoke : Instruction → m (Except Fault (Option String)))
    (evaluate : ε → Reply → m (Option Verdict)) (a : Assertion ε) : m Outcome := do
  let reply ←
    match a.instruction with
    | .noop _ => pure Reply.void
    | .call .. => Reply.ofAnswer <$> invoke a.instruction
  let verdict ← evaluate a.expectation reply
  return ⟨a.instruction.id, verdict⟩

/-- Carries out assertions in order. -/
def runAssertions (invoke : Instruction → m (Except Fault (Option String)))
    (evaluate : ε → Reply → m (Option Verdict)) : List (Assertion ε) → m (List Outcome)
  | [] => return []
  | a :: rest => do
    let outcome ← a.perform invoke evaluate
    let outcomes ← runAssertions invoke evaluate rest
    return outcome :: outcomes

end ScenarioTables
