import ScenarioTables.Context
import ScenarioTables.Run
import ScenarioTables.Scenario.Call
import ScenarioTables.Script

/-!
# Documents

A document takes tables one after another. A scenario table is registered and shown; any other table
is turned into assertions at once, so a scenario must stand before the rows that call it. A table
that is refused is no table of the document, and what building it has attached and opened goes with
it. Running the document carries out all assertions in order.
-/

set_option autoImplicit false

namespace ScenarioTables

/-- The kind of table that declares a scenario. -/
def scenarioKind : String := "scenario"

/-- The tables of a document so far. -/
structure Document where
  /-- What the tables share. -/
  context : Context
  /-- The tables in order, with everything attached to them. -/
  tables : List Table
  /-- The assertions of the tables, in order. -/
  checks : List Check

namespace Document

/-- The document without tables. -/
def empty : Document := ⟨.empty, [], []⟩

/-- The board on which the tables of a document stand. -/
def board (document : Document) : Board :=
  ⟨document.tables, document.context.ledger⟩

/-- The document on a changed board. -/
def withBoard (document : Document) (board : Board) : Document :=
  { document with
    tables := board.tables
    context := { document.context with ledger := board.ledger } }

/-- The id that the next table takes. -/
def nextTableId (document : Document) : String :=
  "table_" ++ toString document.tables.length

/-- The kind of a table: its first cell in lower case, without blanks at its ends. -/
def kindOf (rows : List (List String)) : String :=
  ((rows.head?.bind (·.head?)).map fun cell => Text.lowered (Text.trimmed cell)).getD ""

/-- Registers the scenario that a table declares and shows the table. -/
def addScenario (document : Document) (rows : List (List String)) : Except Fault Document :=
  (document.context.define document.nextTableId rows).map fun (_, context) =>
    { document with context := context, tables := document.tables ++ [Table.ofRows rows] }

/-- What an interpreter is made for when the next table of a document has the given kind. -/
def assignment (document : Document) (kind : String) (rows : List (List String)) : Assignment :=
  { kind
    table := ⟨document.tables.length, []⟩
    rows
    tableId := document.nextTableId
    parent := none
    scope := [] }

/-- The scenarios of a document and the means to call them to a depth. -/
def expander (document : Document) (factory : Factory) (defaultKind : String) (depth : Nat) :
    Expander :=
  ⟨document.context.scenarios,
    Scenario.call ⟨factory, defaultKind, document.context.scenarios⟩ depth⟩

/-- The number of accounts that are open. -/
def accounts (document : Document) : Nat :=
  document.context.ledger.calls.length

/-- What is left of a document when building the assertions of its next table has stopped on a
board. -/
def left (document : Document) (board : Board) : Document :=
  document.withBoard
    { tables := board.tables.take document.tables.length
      ledger := { board.ledger with calls := board.ledger.calls.take document.accounts } }

/-- Offers a table: the address of the table or why it was refused, and the document with which
to go on. Calls in the table nest to the given depth at most. -/
def step (document : Document) (factory : Factory) (defaultKind : String) (depth : Nat)
    (rows : List (List String)) : Except Stop Address × Document :=
  let kind := kindOf rows
  let address : Address := ⟨document.tables.length, []⟩
  if kind = scenarioKind then
    match document.addScenario rows with
    | .error fault => (.error (.fault fault), document)
    | .ok next => (.ok address, next)
  else if factory.supports kind then
    match factory.make (document.assignment kind rows) with
    | .error fault => (.error (.fault fault), document)
    | .ok interpreter =>
      match interpreter.assertions (document.expander factory defaultKind depth)
          (document.board.place (Table.ofRows rows)) with
      | (.error stop, board) => (.error stop, document.left board)
      | (.ok checks, board) =>
        (.ok address, { document.withBoard board with checks := document.checks ++ checks })
  else
    (.error (.fault (.unknownTableType kind document.nextTableId)), document)

/-- The document with one table more, if the table is taken. -/
def addTable (document : Document) (factory : Factory) (defaultKind : String) (depth : Nat)
    (rows : List (List String)) : Except Stop Document :=
  match document.step factory defaultKind depth rows with
  | (.ok _, next) => .ok next
  | (.error stop, _) => .error stop

/-- Offers tables one after another and collects the answers. -/
def session (factory : Factory) (defaultKind : String) (depth : Nat) :
    Document → List (List (List String)) → List (Except Stop Address) × Document
  | document, [] => ([], document)
  | document, rows :: tables =>
    let (answer, next) := document.step factory defaultKind depth rows
    let (answers, last) := session factory defaultKind depth next tables
    (answer :: answers, last)

/-! ## Over the factory of scripts -/

/-- The document after a table was offered to it. A refused table leaves the document as it was, and
there is no document when calls nest more deeply than allowed. -/
def offer (defaultKind : String) (depth : Nat) (document : Document) (rows : List (List String)) :
    Option Document :=
  match document.addTable Script.factory defaultKind depth rows with
  | .ok next => some next
  | .error (.fault _) => some document
  | .error .tooDeep => none

/-- The document after some tables were offered to it. -/
def offerAll (defaultKind : String) (depth : Nat) (document : Document)
    (tables : List (List (List String))) : Option Document :=
  tables.foldlM (offer defaultKind depth) document

/-- The document of some tables. -/
def ofTables (defaultKind : String) (depth : Nat) (tables : List (List (List String))) :
    Option Document :=
  offerAll defaultKind depth .empty tables

/-- The document after a scenario table: the scenario is registered and the table is shown, unless
the header is refused. -/
def declared (document : Document) (rows : List (List String)) : Document :=
  match document.addScenario rows with
  | .ok next => next
  | .error _ => document

/-! ## Running -/

/-- The tally of everything reported in a document. -/
def summary (document : Document) : Tally :=
  document.context.ledger.document

/-- Carries out the assertions of a document. -/
def run {σ : Type} (fixture : Fixture σ) (state : σ) (document : Document) :
    Option (List Outcome × σ × Document) :=
  (runChecks fixture document.checks state document.board).map fun (outcomes, state, board) =>
    (outcomes, state, document.withBoard board)

end Document

end ScenarioTables
