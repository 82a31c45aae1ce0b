import ScenarioTables.Interpreter
import ScenarioTables.Proofs.Addresses

/-!
# How building grows a board

Building assertions changes a board in one way only: tables are attached below the table that is
read, and accounts are opened. `opened` is the board on which the body of a call is read and `grown`
the board after a reading. `opened_grown` turns the reading of a body into growth of the calling
table, and `grown_grown` puts the rows of one script together.
-/

set_option autoImplicit false

namespace ScenarioTables

namespace Board

/-- The board on which the body of a call is read: an account is open for the call and a table is
attached to the calling row. -/
def opened (board : Board) (site : CallSite) (child : Table) : Board :=
  { board with ledger := (board.ledger.nest site.scope).2 }.attach site.table site.row child

/-- The board after a reading: tables are attached to one table and accounts are open. -/
def grown (board : Board) (address : Address) (attached : List (Nat × Table)) (calls : Nat) :
    Board :=
  { tables := (board.modifyTable address fun table =>
      { table with children := table.children ++ attached }).tables
    ledger := { board.ledger with
      calls := board.ledger.calls ++ List.replicate calls ⟨.zero, false⟩ } }

/-- Growing by no table and no account is no change. -/
theorem grown_nothing (board : Board) (address : Address) : board.grown address [] 0 = board := by
  have hid : (fun table : Table => { table with children := table.children ++ [] }) = id := by
    funext table
    cases table with
    | mk rows results children => simp only [List.append_nil, id_eq]
  rw [grown, hid, modifyTable_id, List.replicate_zero, List.append_nil]

@[simp] theorem grown_calls (board : Board) (address : Address) (attached : List (Nat × Table))
    (calls : Nat) : (board.grown address attached calls).ledger.calls
      = board.ledger.calls ++ List.replicate calls ⟨.zero, false⟩ := rfl

/-- The table at which a board grows has the new tables behind the others. -/
theorem table?_grown (board : Board) (address : Address) (attached : List (Nat × Table))
    (calls : Nat) : (board.grown address attached calls).table? address
      = (board.table? address).map fun table =>
          { table with children := table.children ++ attached } :=
  board.table?_modifyTable address _

/-- Opening a call adds one account, in which nothing has been counted. -/
theorem opened_calls (board : Board) (site : CallSite) (child : Table) :
    (board.opened site child).ledger.calls = board.ledger.calls ++ [⟨.zero, false⟩] := rfl

/-- The calling table of an opened board has one more table at the calling row. -/
theorem table?_opened (board : Board) (site : CallSite) (child : Table) :
    (board.opened site child).table? site.table
      = (board.table? site.table).map (·.attach site.row child) :=
  Board.table?_modifyTable { board with ledger := (board.ledger.nest site.scope).2 } site.table _

/-- The table of a call stands on the opened board as it was attached. -/
theorem table?_opened_child {board : Board} {site : CallSite} {table : Table}
    (htable : board.table? site.table = some table) (child : Table) :
    (board.opened site child).table? (site.table.child table.children.length) = some child := by
  have hopened := board.table?_opened site child
  rw [htable] at hopened
  simp only [table?_child, hopened, Option.map_some, Option.bind_some, Table.attach,
    List.getElem?_concat_length]

/-- Opening an account is growing by no table. -/
theorem grown_account (board : Board) (address : Address) (scope : Scope) :
    board.grown address [] 1 = { board with ledger := (board.ledger.nest scope).2 } := by
  have htables := congrArg Board.tables (board.grown_nothing address)
  exact Board.ext htables rfl

/-- Growing twice at one table is growing once. -/
theorem grown_grown (board : Board) (address : Address) (first second : List (Nat × Table))
    (earlier later : Nat) :
    (board.grown address first earlier).grown address second later
      = board.grown address (first ++ second) (earlier + later) := by
  have htables : (board.modifyTable address fun table =>
        { table with children := table.children ++ first }).modifyTable address (fun table =>
          { table with children := table.children ++ second })
      = board.modifyTable address fun table =>
          { table with children := table.children ++ (first ++ second) } := by
    rw [modifyTable_modifyTable]
    simp only [Function.comp_def, List.append_assoc]
  have haccounts : (board.ledger.calls ++ List.replicate earlier ⟨.zero, false⟩)
      ++ List.replicate later ⟨.zero, false⟩
        = board.ledger.calls ++ List.replicate (earlier + later) (⟨.zero, false⟩ : CallAccount) := by
    rw [List.append_assoc, List.replicate_append_replicate]
  have hmodified := congrArg Board.tables htables
  have hledger := congrArg (Ledger.mk board.ledger.document) haccounts
  exact Board.ext hmodified hledger

/-- Attaching the table of a call and growing below it is attaching the grown table. -/
theorem opened_grown {board : Board} {site : CallSite} {table : Table}
    (htable : board.table? site.table = some table) (child : Table)
    (inner : List (Nat × Table)) (nested : Nat) :
    (board.opened site child).grown (site.table.child table.children.length) inner nested
      = board.grown site.table [(site.row, { child with children := child.children ++ inner })]
        (1 + nested) := by
  have htables : (board.attach site.table site.row child).modifyTable
        (site.table.child table.children.length) (fun child =>
          { child with children := child.children ++ inner })
      = board.modifyTable site.table fun table =>
          { table with children := table.children
              ++ [(site.row, { child with children := child.children ++ inner })] } := by
    rw [attach, modifyTable_child, modifyTable_modifyTable]
    apply modifyTable_congr
    intro other hother
    cases htable.symm.trans hother
    simp only [Function.comp_apply, Table.attach, Table.modifyChild, modify_length_append]
  have haccounts : (board.ledger.calls ++ [⟨.zero, false⟩]) ++ List.replicate nested ⟨.zero, false⟩
      = board.ledger.calls ++ List.replicate (1 + nested) (⟨.zero, false⟩ : CallAccount) := by
    rw [List.append_assoc, ← List.replicate_append_replicate, List.replicate_one]
  have hmodified := congrArg Board.tables htables
  have hledger := congrArg (Ledger.mk board.ledger.document) haccounts
  exact Board.ext hmodified hledger

end Board

end ScenarioTables
