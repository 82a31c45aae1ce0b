/-!
# Verdicts and tallies

A verdict is the result of one row or one call. A tally counts verdicts in four 32-bit counters;
adding to a counter that would pass its greatest value fails as a whole, so no count ever wraps.
The verdict of a tally is the gravest one it holds: an error outranks a failure, a failure an
ignored row, and a tally without any of these passes.
-/

set_option autoImplicit false

namespace ScenarioTables

/-- The result of a row or a call. -/
inductive Verdict where
  | pass
  | fail
  | error
  | ignore
  deriving DecidableEq, Repr

namespace Verdict

/-- The verdict as one word of a sentence. -/
def label : Verdict → String
  | .pass => "pass"
  | .fail => "fail"
  | .error => "error"
  | .ignore => "ignore"

/-- The verdict as a constant in data. -/
def code : Verdict → String
  | .pass => "PASS"
  | .fail => "FAIL"
  | .error => "ERROR"
  | .ignore => "IGNORE"

/-- The verdict that a constant in data stands for. -/
def ofCode? : String → Option Verdict
  | "PASS" => some .pass
  | "FAIL" => some .fail
  | "ERROR" => some .error
  | "IGNORE" => some .ignore
  | _ => none

/-- The code of a verdict is read as this verdict. -/
@[simp] theorem ofCode?_code (v : Verdict) : ofCode? v.code = some v := by
  cases v <;> rfl

end Verdict

/-- How often each verdict was given. -/
structure Tally where
  /-- Passed. -/
  right : UInt32
  /-- Failed. -/
  wrong : UInt32
  /-- Ignored. -/
  ignores : UInt32
  /-- Ended in an error. -/
  exceptions : UInt32
  deriving DecidableEq, Repr

namespace Tally

/-- The tally of nothing. -/
def zero : Tally := ⟨0, 0, 0, 0⟩

/-- What is said when a counter would pass its greatest value. -/
def overflowText : String := "attempt to add with overflow"

/-- The sum of two counts, if it is below `2 ^ 32`. -/
def addCount (a b : UInt32) : Option UInt32 :=
  if a.toNat + b.toNat < UInt32.size then some (a + b) else none

/-- Counts one verdict. -/
def add (t : Tally) : Verdict → Option Tally
  | .pass => (addCount t.right 1).map fun n => { t with right := n }
  | .fail => (addCount t.wrong 1).map fun n => { t with wrong := n }
  | .ignore => (addCount t.ignores 1).map fun n => { t with ignores := n }
  | .error => (addCount t.exceptions 1).map fun n => { t with exceptions := n }

/-- Adds a whole tally, counter by counter. -/
def merge (t other : Tally) : Option Tally := do
  let right ← addCount t.right other.right
  let wrong ← addCount t.wrong other.wrong
  let ignores ← addCount t.ignores other.ignores
  let exceptions ← addCount t.exceptions other.exceptions
  return ⟨right, wrong, ignores, exceptions⟩

/-- The number of all verdicts counted, if it is a count itself. -/
def total (t : Tally) : Option UInt32 := do
  let sum ← addCount t.right t.wrong
  let sum ← addCount sum t.ignores
  addCount sum t.exceptions

/-- Whether nothing was counted; like the total it is the answer of a sum that can be too large. -/
def isEmpty (t : Tally) : Option Bool :=
  t.total.map (· == 0)

/-- The gravest verdict counted. -/
def verdict (t : Tally) : Verdict :=
  if 0 < t.exceptions then .error
  else if 0 < t.wrong then .fail
  else if 0 < t.ignores then .ignore
  else .pass

/-- The tally as a sentence. -/
def describe (t : Tally) : String :=
  toString t.right.toNat ++ " right, " ++ toString t.wrong.toNat ++ " wrong, "
    ++ toString t.ignores.toNat ++ " ignored, " ++ toString t.exceptions.toNat ++ " exceptions"

/-- A sum of counts is the exact sum. -/
theorem addCount_eq_some_iff {a b c : UInt32} :
    addCount a b = some c ↔ a.toNat + b.toNat = c.toNat := by
  unfold addCount
  have hc : c.toNat < UInt32.size := c.toNat_lt
  split
  · rename_i h
    rw [Option.some_inj, ← UInt32.toNat_inj, UInt32.toNat_add, Nat.mod_eq_of_lt h]
  · simp only [reduceCtorEq, false_iff]
    omega

end Tally

end ScenarioTables
