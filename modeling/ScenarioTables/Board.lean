import ScenarioTables.Ledger
import ScenarioTables.Table

/-!
# The board of a document

The board is what a run changes: the tables of a document, with everything attached to them, and the
ledger. A table on the board has an address, the number of the outermost table and the path inside
it.
-/

set_option autoImplicit false

namespace ScenarioTables

/-- The address of a table on the board. -/
structure Address where
  /-- The number of the outermost table. -/
  root : Nat
  /-- The path from there. -/
  path : List Nat
  deriving DecidableEq, Repr

/-- The address of the table attached at a position. -/
def Address.child (address : Address) (position : Nat) : Address :=
  { address with path := address.path ++ [position] }

/-- The tables of a document and its ledger. -/
structure Board where
  /-- The outermost tables by number. -/
  tables : List Table
  /-- The tallies of the document and of the calls in it. -/
  ledger : Ledger

namespace Board

/-- The board without tables. -/
def empty : Board := ⟨[], .empty⟩

/-- The table at an address. -/
def table? (board : Board) (address : Address) : Option Table :=
  (board.tables[address.root]?).bind (·.descendant? address.path)

/-- Changes the table at an address. -/
def modifyTable (board : Board) (address : Address) (change : Table → Table) : Board :=
  { board with tables := board.tables.modify address.root (Table.modifyAt change address.path) }

/-- Marks a row of the table at an address. -/
def mark (board : Board) (address : Address) (row : Nat) (verdict : Verdict) : Board :=
  board.modifyTable address (·.mark row verdict)

/-- The address that the next table attached to the one at an address will have. -/
def nextChild (board : Board) (address : Address) : Address :=
  address.child (((board.table? address).map (·.children.length)).getD 0)

/-- Attaches a table to a row of the table at an address. -/
def attach (board : Board) (address : Address) (row : Nat) (child : Table) : Board :=
  board.modifyTable address (·.attach row child)

/-- Puts a table onto the board; its number is the number of tables before. -/
def place (board : Board) (table : Table) : Board :=
  { board with tables := board.tables ++ [table] }

end Board

end ScenarioTables
