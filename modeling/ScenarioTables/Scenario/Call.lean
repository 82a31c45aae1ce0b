import ScenarioTables.Interpreter

/-!
# Calling a scenario

A call expands the scenario's rows, opens an account for them inside the caller's and has an
interpreter made for them. The table that this interpreter answers for is attached to the calling
row before the interpreter reads. Behind the assertions that it makes stands the roll-up, an
instruction that does nothing, at which the call's verdict is read. Calls inside the expanded rows
are the same at one level less of allowed depth.
-/

set_option autoImplicit false

namespace ScenarioTables

/-- What calls are made with. -/
structure Setting where
  factory : Factory
  /-- The kind of interpreter for callers of a kind that the factory does not make. -/
  defaultKind : String
  scenarios : Registry

namespace Scenario

/-- The id of a call: it names the calling table, the row and the called table. -/
def callId (scenario : Scenario) (site : CallSite) : String :=
  site.tableId ++ "_" ++ toString site.row ++ "/" ++ scenario.tableId

/-- The assertion that closes a call. -/
def rollUp (scenario : Scenario) (site : CallSite) (scope : Scope) (parent : Option Address) :
    Check :=
  ⟨.noop (scenario.callId site ++ "_rollup"),
    .rollUp scope parent site.row scenario.declaresOutputs⟩

/-- Makes the interpreter for the expanded rows of a call and attaches the table that it answers
for to the calling row. -/
def attachBody (setting : Setting) (scenario : Scenario) (site : CallSite) (scope : Scope)
    (rows : List (List String)) : Build Interpreter := do
  let interpreter ← Build.ofExcept <| setting.factory.make
    { kind := setting.factory.childKind setting.defaultKind site.kind
      table := (← get).nextChild site.table
      rows
      tableId := scenario.callId site
      parent := some site.table
      scope }
  modify (·.attach site.table site.row interpreter.table)
  return interpreter

/-- The assertions of a call, which may nest calls to the given depth. -/
def call (setting : Setting) : Nat → Scenario → Binding → CallSite → Build (List Check)
  | 0, _, _, _ => throw .tooDeep
  | depth + 1, scenario, binding, site => do
    let rows ← Build.ofExcept (scenario.expand binding)
    let scope ← Build.openScope site.scope
    let interpreter ← scenario.attachBody setting site scope rows
    let body ← interpreter.assertions ⟨setting.scenarios, call setting depth⟩
    return body ++ [scenario.rollUp site scope interpreter.parent]

/-- The assertions of a call with arguments by position. -/
def callPositional (setting : Setting) (depth : Nat) (scenario : Scenario) (values : List String)
    (site : CallSite) : Build (List Check) :=
  scenario.call setting depth (scenario.bindPositional values) site

/-- The assertions of a call with arguments by name. -/
def callNamed (setting : Setting) (depth : Nat) (scenario : Scenario)
    (values : Dictionary String String) (site : CallSite) : Build (List Check) := do
  let binding ← Build.ofExcept (scenario.bindNamed values)
  scenario.call setting depth binding site

end Scenario

end ScenarioTables
