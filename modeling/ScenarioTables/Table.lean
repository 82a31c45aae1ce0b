import ScenarioTables.Dictionary
import ScenarioTables.Tally

/-!
# Tables

A table is a grid of text cells. Its rows are never changed; what happens to a table is that rows
are marked with verdicts and that tables are attached to rows. A table inside another one is named
by its path: the positions, from the outside in, among the tables attached to each table on the way.
-/

set_option autoImplicit false

namespace ScenarioTables

/-- A grid of cells with the results of its rows and the tables attached to them. -/
structure Table where
  /-- The cells, row by row. -/
  rows : List (List String)
  /-- The latest mark of each marked row. -/
  results : Dictionary Nat Verdict
  /-- The attached tables with the rows they belong to, in the order of attachment. -/
  children : List (Nat × Table)

namespace Table

/-- A table with the given cells that nothing has happened to. -/
def ofRows (rows : List (List String)) : Table := ⟨rows, .empty, []⟩

instance : Inhabited Table := ⟨ofRows []⟩

/-- The number of rows. -/
def rowCount (table : Table) : Nat :=
  table.rows.length

/-- The cells of a row. -/
def row? (table : Table) (row : Nat) : Option (List String) :=
  table.rows[row]?

/-- The number of cells of a row; a row that is not there has none. -/
def columnCount (table : Table) (row : Nat) : Nat :=
  ((table.row? row).map (·.length)).getD 0

/-- The cell in a column of a row. -/
def cell? (table : Table) (column row : Nat) : Option String :=
  (table.row? row).bind (·[column]?)

/-- A new table with every cell replaced, row by row from left to right. Results and attached
tables stay behind. -/
def mapCells {m : Type → Type} [Monad m] (change : String → m String) (table : Table) :
    m Table := do
  let rows ← table.rows.mapM fun cells => cells.mapM change
  return ofRows rows

/-- Marks a row. -/
def mark (table : Table) (row : Nat) (verdict : Verdict) : Table :=
  { table with results := table.results.insert row verdict }

/-- The latest mark of a row. -/
def result? (table : Table) (row : Nat) : Option Verdict :=
  table.results.find? row

/-- Attaches a table to a row. -/
def attach (table : Table) (row : Nat) (child : Table) : Table :=
  { table with children := table.children ++ [(row, child)] }

/-- The tables attached to a row. -/
def childrenOf (table : Table) (row : Nat) : List Table :=
  (table.children.filter (·.1 == row)).map (·.2)

/-- The table at a path. -/
def descendant? (table : Table) : List Nat → Option Table
  | [] => some table
  | position :: path => (table.children[position]?).bind fun child => child.2.descendant? path

/-- Changes the table at a path. -/
def modifyAt (change : Table → Table) : List Nat → Table → Table
  | [], table => change table
  | position :: path, table =>
    { table with
      children := table.children.modify position fun child =>
        (child.1, modifyAt change path child.2) }

/-- One table of a listing. -/
structure Listing where
  /-- Where the table hangs: empty at the top, then `/row.number` for each step inwards. -/
  path : String
  rows : List (List String)
  results : List (Option Verdict)
  deriving DecidableEq, Repr

/-- The step from a table to one attached to a row. -/
def step (row number : Nat) : String :=
  "/" ++ toString row ++ "." ++ toString number

/-- The entry of a table itself in a listing. -/
def entry (table : Table) (path : String) : Listing :=
  ⟨path, table.rows, (List.range table.rowCount).map table.result?⟩

mutual

/-- The listing of a table and of all tables below it, depth first, as a function of the path where
it hangs. Tables attached beyond the last row do not appear. -/
def listingAt : Table → String → List Listing
  | ⟨rows, results, children⟩, path =>
    let below := listingsBelow children
    entry ⟨rows, results, children⟩ path ::
      (List.range rows.length).flatMap fun row =>
        ((below.filter (·.1 == row)).zipIdx).flatMap fun ((_, listing), number) =>
          listing (path ++ step row number)

/-- The listings of the attached tables, each with its row. -/
def listingsBelow : List (Nat × Table) → List (Nat × (String → List Listing))
  | [] => []
  | (row, child) :: rest => (row, fun path => listingAt child path) :: listingsBelow rest

end

/-- The table and all tables below it, depth first. -/
def listing (table : Table) : List Listing :=
  table.listingAt ""

end Table

end ScenarioTables
