import ScenarioTables.Document
import ScenarioTables.Json.Form
import ScenarioTables.Json.Reader
import ScenarioTables.Json.Writer

/-!
# Reports

The report of a run: the id of the run, the document's tally, and what became of each assertion with
the time that it took. A report is kept as JSON text.
-/

set_option autoImplicit false

namespace ScenarioTables

/-- What became of one assertion, and how long that took. -/
structure TimedOutcome extends Outcome where
  /-- The time in milliseconds. -/
  latencyMs : UInt64
  deriving DecidableEq, Repr

namespace TimedOutcome

/-- The names of the fields of an outcome. -/
def fieldNames : List String := ["instruction_id", "result", "latency_ms"]

/-- The JSON form of an outcome. -/
def toJson (outcome : TimedOutcome) : Json :=
  .object
    [("instruction_id", .string outcome.instructionId),
      ("result", Json.ofOption Verdict.toJson outcome.verdict),
      ("latency_ms", .nat outcome.latencyMs.toNat)]

/-- Reads an outcome; in an object the verdict may be missing. -/
def ofJson? (json : Json) : Option TimedOutcome := do
  let fields ← json.record? fieldNames 3
  let instructionId ← Json.required? fields "instruction_id" Json.text?
  let verdict ← Json.optional? Verdict.ofJson? ((Json.lastField? "result" fields).getD .null)
  let latency ← Json.required? fields "latency_ms" (Json.natBelow? UInt64.size)
  return ⟨⟨instructionId, verdict⟩, UInt64.ofNat latency⟩

end TimedOutcome

/-- The report of a run. -/
structure Report where
  runId : String
  /-- The document's tally after the run. -/
  summary : Tally
  /-- What became of the assertions, in order. -/
  outcomes : List TimedOutcome
  deriving DecidableEq, Repr

namespace Report

/-- The report of a run that left a document with some outcomes; the clock gives the times. -/
def ofRun (runId : String) (latency : Nat → UInt64) (outcomes : List Outcome)
    (document : Document) : Report :=
  ⟨runId, document.summary,
    outcomes.mapIdx fun index outcome => { outcome with latencyMs := latency index }⟩

/-- The names of the fields of a report. -/
def fieldNames : List String := ["run_id", "summary", "outcomes"]

/-- The JSON form of a report. -/
def toJson (report : Report) : Json :=
  .object
    [("run_id", .string report.runId), ("summary", report.summary.toJson),
      ("outcomes", .array (report.outcomes.map TimedOutcome.toJson))]

/-- Reads a report. -/
def ofJson? (json : Json) : Option Report := do
  let fields ← json.record? fieldNames 3
  let runId ← Json.required? fields "run_id" Json.text?
  let summary ← Json.required? fields "summary" Tally.ofJson?
  let outcomes ← Json.required? fields "outcomes" (Json.list? TimedOutcome.ofJson?)
  return ⟨runId, summary, outcomes⟩

/-- The JSON text of a report. -/
def toText (report : Report) : String :=
  report.toJson.pretty

/-- The report that a JSON text holds. -/
def ofText? (text : String) : Option Report :=
  (Json.read? text).bind ofJson?

end Report

end ScenarioTables
