/-!
# Numbers written in digits

The numbers that decimal and hexadecimal digits spell.
-/

set_option autoImplicit false

namespace ScenarioTables.Text

/-- The number that a list of decimal digits spells. -/
def decimalValue (digits : List Char) : Nat :=
  digits.foldl (fun n c => n * 10 + (c.toNat - 48)) 0

/-- The number of a text of decimal digits, of which there must be at least one. -/
def decimal? (cs : List Char) : Option Nat :=
  if !cs.isEmpty && cs.all (·.isDigit) then some (decimalValue cs) else none

/-- The number of a text of decimal digits that may have a plus sign in front. -/
def signedDecimal? : List Char → Option Nat
  | '+' :: digits => decimal? digits
  | digits => decimal? digits

/-- The value of a hexadecimal digit. -/
def hexDigit? (c : Char) : Option Nat :=
  if '0' ≤ c ∧ c ≤ '9' then some (c.toNat - 48)
  else if 'a' ≤ c ∧ c ≤ 'f' then some (c.toNat - 87)
  else if 'A' ≤ c ∧ c ≤ 'F' then some (c.toNat - 55)
  else none

/-- The number that hexadecimal digits spell. -/
def hexadecimal? (cs : List Char) : Option Nat :=
  cs.foldlM (fun n c => (hexDigit? c).map (n * 16 + ·)) 0

end ScenarioTables.Text
