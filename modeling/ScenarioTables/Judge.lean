import ScenarioTables.Assertion
import ScenarioTables.Text.Blank

/-!
# Judging a reply

A row of a script says how the reply to its action is judged: against an expected value, as a truth
value, or as a truth value if it happens to be one. Blanks around a value do not count. A fault of
the fixture side is always an error.
-/

set_option autoImplicit false

namespace ScenarioTables

/-- How the reply to an action is judged. -/
inductive Judge where
  /-- The value must be the expected one. -/
  | check (expected : String)
  /-- The value must be `true`. -/
  | ensure
  /-- The value must be `false`. -/
  | reject
  /-- `true` passes and `false` fails; anything else gives no verdict. -/
  | action
  deriving DecidableEq, Repr

namespace Judge

/-- Passes if the condition holds and fails otherwise. -/
def passIf (condition : Bool) : Verdict :=
  if condition then .pass else .fail

/-- The verdict on a value, or on the lack of one. -/
def ofValue (judge : Judge) (value : Option String) : Option Verdict :=
  match judge with
  | .check expected => some (passIf (value == some (Text.trimmed expected)))
  | .ensure => some (passIf (value == some "true"))
  | .reject => some (passIf (value == some "false"))
  | .action =>
    if value = some "true" then some .pass
    else if value = some "false" then some .fail
    else none

/-- The verdict on a reply. -/
def verdict? (judge : Judge) : Reply → Option Verdict
  | .exception _ => some .error
  | .void => judge.ofValue none
  | .value text => judge.ofValue (some (Text.trimmed text))

end Judge

end ScenarioTables
