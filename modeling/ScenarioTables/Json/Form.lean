import ScenarioTables.Assertion
import ScenarioTables.Config
import ScenarioTables.Header
import ScenarioTables.Json.Value
import ScenarioTables.Text.Digits

/-!
# JSON forms

How verdicts, tallies, instructions, templates, headers and configurations are written as JSON
values and read back. A record is written as an object with its fields in order of declaration; it
is read from an object, where other fields do not matter, or from the list of its fields' values. A
choice without content is written as its name and also read from an object that holds nothing under
the name.
-/

set_option autoImplicit false

namespace ScenarioTables

namespace Json

/-- The text that a value is. -/
def text? : Json → Option String
  | .string text => some text
  | _ => none

/-- The truth value that a value is. -/
def flag? : Json → Option Bool
  | .bool value => some value
  | _ => none

/-- The count below a bound that a value is: a number written with digits only. -/
def natBelow? (bound : Nat) : Json → Option Nat
  | .number text => (Text.decimal? text.toList).filter (· < bound)
  | _ => none

/-- The list that a value is. -/
def list? {α : Type} (item? : Json → Option α) : Json → Option (List α)
  | .array items => items.mapM item?
  | _ => none

/-- The value itself, or nothing if it is `null`. -/
def optional? {α : Type} (value? : Json → Option α) : Json → Option (Option α)
  | .null => some none
  | value => (value? value).map some

/-- The fields of a record with the given field names, of which a list must give at least the first
`least`. -/
def record? (names : List String) (least : Nat) : Json → Option (List (String × Json))
  | .object fields => some fields
  | .array items =>
    if least ≤ items.length ∧ items.length ≤ names.length then some (names.zip items) else none
  | _ => none

/-- The value of a field that must be there. -/
def required? {α : Type} (fields : List (String × Json)) (name : String)
    (value? : Json → Option α) : Option α :=
  (lastField? name fields).bind value?

/-- The name of a choice without content. -/
def choice? : Json → Option String
  | .string name => some name
  | .object [(name, .null)] => some name
  | _ => none

/-- The value of an optional part. -/
def ofOption {α : Type} (write : α → Json) : Option α → Json
  | some value => write value
  | none => .null

/-- A list of texts. -/
def texts (list : List String) : Json :=
  .array (list.map .string)

end Json

namespace Verdict

/-- The JSON form of a verdict. -/
def toJson (verdict : Verdict) : Json :=
  .string verdict.code

/-- Reads a verdict. -/
def ofJson? (json : Json) : Option Verdict :=
  json.choice?.bind ofCode?

end Verdict

namespace Tally

/-- The names of the counters. -/
def fieldNames : List String := ["right", "wrong", "ignores", "exceptions"]

/-- The JSON form of a tally. -/
def toJson (tally : Tally) : Json :=
  .object
    [("right", .nat tally.right.toNat), ("wrong", .nat tally.wrong.toNat),
      ("ignores", .nat tally.ignores.toNat), ("exceptions", .nat tally.exceptions.toNat)]

/-- Reads a counter. -/
def countOfJson? (json : Json) : Option UInt32 :=
  (json.natBelow? UInt32.size).map UInt32.ofNat

/-- Reads a tally. -/
def ofJson? (json : Json) : Option Tally := do
  let fields ← json.record? fieldNames 4
  let right ← Json.required? fields "right" countOfJson?
  let wrong ← Json.required? fields "wrong" countOfJson?
  let ignores ← Json.required? fields "ignores" countOfJson?
  let exceptions ← Json.required? fields "exceptions" countOfJson?
  return ⟨right, wrong, ignores, exceptions⟩

end Tally

namespace Instruction

/-- The JSON form of an instruction; its kind comes first. -/
def toJson : Instruction → Json
  | .noop id => .object [("op", .string "noop"), ("id", .string id)]
  | .call id actor method arguments =>
    .object
      [("op", .string "call"), ("id", .string id), ("instance", .string actor),
        ("method", .string method), ("args", Json.texts arguments)]

/-- The kind of an instruction: the field `op`, or the first item of a list. -/
def kindOfJson? : Json → Option String
  | .object fields => Json.required? fields "op" Json.text?
  | .array (first :: _) => first.text?
  | _ => none

/-- Reads an instruction. -/
def ofJson? (json : Json) : Option Instruction :=
  match kindOfJson? json with
  | some "noop" => do
    let fields ← json.record? ["op", "id"] 2
    let id ← Json.required? fields "id" Json.text?
    return .noop id
  | some "call" => do
    let fields ← json.record? ["op", "id", "instance", "method", "args"] 5
    let id ← Json.required? fields "id" Json.text?
    let actor ← Json.required? fields "instance" Json.text?
    let method ← Json.required? fields "method" Json.text?
    let arguments ← Json.required? fields "args" (Json.list? Json.text?)
    return .call id actor method arguments
  | _ => none

end Instruction

namespace Token

/-- The JSON form of a piece of a template. -/
def toJson : Token → Json
  | .literal text => .object [("Literal", .string text)]
  | .placeholder => .string "Placeholder"

/-- Reads a piece of a template. -/
def ofJson? : Json → Option Token
  | .object [("Literal", .string text)] => some (.literal text)
  | json => if json.choice? = some "Placeholder" then some .placeholder else none

end Token

namespace NameTemplate

/-- The JSON form of a template. -/
def toJson (template : NameTemplate) : Json :=
  .object [("tokens", .array (template.tokens.map Token.toJson))]

/-- Reads a template. -/
def ofJson? (json : Json) : Option NameTemplate := do
  let fields ← json.record? ["tokens"] 1
  let tokens ← Json.required? fields "tokens" (Json.list? Token.ofJson?)
  return ⟨tokens⟩

end NameTemplate

namespace Header

/-- The names of a header's fields. -/
def fieldNames : List String := ["name", "inputs", "outputs", "parameterized", "name_cells"]

/-- The JSON form of a header. -/
def toJson (header : Header) : Json :=
  .object
    [("name", .string header.name), ("inputs", Json.texts header.inputs),
      ("outputs", Json.texts header.outputs.names), ("parameterized", .bool header.parameterized),
      ("name_cells", Json.texts header.nameCells)]

/-- Reads a header. -/
def ofJson? (json : Json) : Option Header := do
  let fields ← json.record? fieldNames 5
  let name ← Json.required? fields "name" Json.text?
  let inputs ← Json.required? fields "inputs" (Json.list? Json.text?)
  let outputs ← Json.required? fields "outputs" (Json.list? Json.text?)
  let parameterized ← Json.required? fields "parameterized" Json.flag?
  let nameCells ← Json.required? fields "name_cells" (Json.list? Json.text?)
  return ⟨name, inputs, NameSet.ofList outputs, parameterized, nameCells⟩

end Header

namespace Config

/-- The JSON form of a configuration. -/
def toJson (config : Config) : Json :=
  .object [(kindKey, .string config.defaultChildKind), (levelKey, .string config.logLevel)]

/-- Reads a text that may be missing, in which case it has a default. -/
def textOrDefault? (fields : List (String × Json)) (name fallback : String) : Option String :=
  match Json.lastField? name fields with
  | some value => value.text?
  | none => some fallback

/-- Reads a configuration; fields that are missing take their defaults. -/
def ofJson? (json : Json) : Option Config := do
  let fields ← json.record? [kindKey, levelKey] 0
  let kind ← textOrDefault? fields kindKey default.defaultChildKind
  let level ← textOrDefault? fields levelKey default.logLevel
  return ⟨kind, level⟩

end Config

end ScenarioTables
