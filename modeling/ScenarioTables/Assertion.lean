import ScenarioTables.Fault
import ScenarioTables.Tally
import ScenarioTables.Text.Quoted

/-!
# Instructions and assertions

An instruction asks the fixture side to call a method of an actor; an assertion pairs it with what
is expected of the reply. An instruction that does nothing is never sent, and its expectation sees
an empty reply.
-/

set_option autoImplicit false

namespace ScenarioTables

/-- What the fixture side is asked to do. -/
inductive Instruction where
  | noop (id : String)
  /-- Call a method of an actor with some arguments. -/
  | call (id actor method : String) (arguments : List String)
  deriving DecidableEq, Repr

namespace Instruction

/-- The id of an instruction. -/
def id : Instruction → String
  | .noop id => id
  | .call id _ _ _ => id

/-- Whether an instruction does nothing. -/
def isNoop : Instruction → Bool
  | .noop _ => true
  | .call .. => false

/-- Texts in quotes, with commas between them. -/
def quotedList : List String → String
  | [] => ""
  | [s] => Text.quoted s
  | s :: rest => Text.quoted s ++ ", " ++ quotedList rest

/-- The instruction as it is shown to a developer. -/
def describe : Instruction → String
  | .noop id => "Noop \x7b id: " ++ Text.quoted id ++ " \x7d"
  | .call id actor method arguments =>
    "Call \x7b id: " ++ Text.quoted id ++ ", instance: " ++ Text.quoted actor ++ ", method: "
      ++ Text.quoted method ++ ", args: [" ++ quotedList arguments ++ "] \x7d"

end Instruction

/-- What came back from the fixture side. -/
inductive Reply where
  | void
  | value (text : String)
  /-- The full text of a fault. -/
  | exception (text : String)
  deriving DecidableEq, Repr

namespace Reply

/-- The reply that an answer of the fixture side amounts to. -/
def ofAnswer : Except Fault (Option String) → Reply
  | .ok (some text) => .value text
  | .ok none => .void
  | .error fault => .exception fault.text

/-- The value of a reply, if it is one. -/
def value? : Reply → Option String
  | .value text => some text
  | _ => none

end Reply

/-- An instruction with an expectation of some kind `ε`. -/
structure Assertion (ε : Type) where
  instruction : Instruction
  expectation : ε

/-- The assertion as it is shown to a developer, without its expectation. -/
def Assertion.describe {ε : Type} (a : Assertion ε) : String :=
  "Assertion \x7b instruction: " ++ a.instruction.describe ++ ", .. \x7d"

/-- What became of one assertion. -/
structure Outcome where
  /-- The id of the assertion's instruction. -/
  instructionId : String
  /-- The verdict, if the expectation gave one. -/
  verdict : Option Verdict
  deriving DecidableEq, Repr

end ScenarioTables
