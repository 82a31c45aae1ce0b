/-!
# JSON values

The values of JSON. A number is kept as it is written, because `1` and `1.0` are different texts and
only the first of them is a count. The fields of an object keep their order; of two fields with one
name the later counts.
-/

set_option autoImplicit false

namespace ScenarioTables

/-- A JSON value. -/
inductive Json where
  | null
  | bool (value : Bool)
  | number (text : String)
  | string (text : String)
  | array (items : List Json)
  | object (fields : List (String × Json))
  deriving Inhabited

namespace Json

/-- The number of a count. -/
def nat (n : Nat) : Json :=
  .number (toString n)

/-- The value of the last field with a name. -/
def lastField? (name : String) (fields : List (String × Json)) : Option Json :=
  (fields.reverse.find? fun field => decide (field.1 = name)).map Prod.snd

/-- The value of a field of an object. -/
def field? (name : String) : Json → Option Json
  | .object fields => lastField? name fields
  | _ => none

end Json

end ScenarioTables
