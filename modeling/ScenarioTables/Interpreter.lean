import ScenarioTables.Expectation
import ScenarioTables.Scenario.Registry

/-!
# Interpreters

An interpreter turns the rows of one table into assertions. Interpreters are made by a factory, one
constructor for each kind of table. While it reads its rows an interpreter may call scenarios; a
call makes another interpreter for the expanded rows, and so on inwards, to a depth that the caller
of the whole limits. Building can stop with a fault or at that limit, and what it has done to the
board before stays done. Which table an interpreter answers for is its own affair: that of a script
holds the rows that the script was made for.
-/

set_option autoImplicit false

namespace ScenarioTables

/-- Why building assertions stopped. -/
inductive Stop where
  | fault (fault : Fault)
  /-- Calls were nested more deeply than allowed. -/
  | tooDeep
  deriving DecidableEq, Repr

/-- Building on a board; the board survives a stop. -/
abbrev Build := ExceptT Stop (StateM Board)

namespace Build

/-- A step that can fail and does nothing to the board. -/
def ofExcept {α : Type} : Except Fault α → Build α
  | .ok value => return value
  | .error fault => throw (.fault fault)

/-- Opens an account for a call inside a scope. -/
def openScope (scope : Scope) : Build Scope := do
  let board ← get
  let (inner, ledger) := board.ledger.nest scope
  set { board with ledger := ledger }
  return inner

end Build

/-- The assertions of a document. -/
abbrev Check := Assertion Expectation

/-- Where a call of a scenario stands: the calling table, what its interpreter was made for, and the
calling row. -/
structure CallSite where
  table : Address
  tableId : String
  kind : String
  row : Nat
  scope : Scope

/-- What an interpreter can use while it reads its rows. -/
structure Expander where
  /-- The scenarios that can be called. -/
  scenarios : Registry
  /-- Calls a scenario: the assertions of its expanded rows. -/
  call : Scenario → Binding → CallSite → Build (List Check)

/-- What an interpreter is made for. -/
structure Assignment where
  kind : String
  table : Address
  rows : List (List String)
  /-- The id of the table, with which the ids of its instructions begin. -/
  tableId : String
  /-- The address of the calling table, if the table is the expansion of a call. -/
  parent : Option Address
  /-- The scope in which the table's verdicts count. -/
  scope : Scope

/-- The reader of one table. -/
structure Interpreter where
  /-- The kind that it goes by. -/
  kind : String
  /-- The table that it answers for: a call attaches this one to the calling row. -/
  table : Table
  /-- The calling table that it knows of. -/
  parent : Option Address
  /-- Turns the rows into assertions. -/
  assertions : Expander → Build (List Check)

/-- What makes interpreters of one kind. -/
abbrev Constructor := Assignment → Except Fault Interpreter

/-- The constructors by kind. -/
abbrev Factory := Dictionary String Constructor

namespace Factory

/-- Whether interpreters of a kind can be made. -/
def supports (factory : Factory) (kind : String) : Bool :=
  factory.contains kind

/-- The kind of interpreter for the rows of a scenario: the caller's if it can be made, and the
default kind otherwise. -/
def childKind (factory : Factory) (defaultKind callerKind : String) : String :=
  if factory.supports callerKind then callerKind else defaultKind

/-- Makes an interpreter. -/
def make (factory : Factory) (assignment : Assignment) : Except Fault Interpreter :=
  match factory.find? assignment.kind with
  | some constructor => constructor assignment
  | none => .error (.noInterpreter assignment.kind)

end Factory

end ScenarioTables
