import ScenarioTables.Board

/-!
# Tables at an address

Reading and changing one table on a board. Two changes at one address are one change, a change of an
attached table is a change of the table that it is attached to, and a change is known by what it
does to the one table that stands there.
-/

set_option autoImplicit false

namespace ScenarioTables

/-- Changing the entry behind a list's beginning leaves what stands around it. -/
theorem modify_length_append {α : Type} (items : List α) (item : α) (behind : List α)
    (change : α → α) : (items ++ item :: behind).modify items.length change
      = items ++ change item :: behind := by
  induction items with
  | nil => rfl
  | cons first items ih => simp only [List.cons_append, List.length_cons, List.modify_succ_cons, ih]

namespace Table

theorem descendant?_append (table : Table) (path inner : List Nat) :
    table.descendant? (path ++ inner) = (table.descendant? path).bind (·.descendant? inner) := by
  induction path generalizing table with
  | nil => rfl
  | cons position path ih =>
    simp only [List.cons_append, descendant?]
    cases table.children[position]? with
    | none => rfl
    | some child => exact ih child.2

theorem modifyAt_append (change : Table → Table) (path inner : List Nat) (table : Table) :
    modifyAt change (path ++ inner) table = modifyAt (modifyAt change inner) path table := by
  induction path generalizing table with
  | nil => rfl
  | cons position path ih => simp only [List.cons_append, modifyAt, ih]

theorem modifyAt_modifyAt (first second : Table → Table) (path : List Nat) (table : Table) :
    modifyAt second path (modifyAt first path table) = modifyAt (second ∘ first) path table := by
  induction path generalizing table with
  | nil => rfl
  | cons position path ih =>
    simp only [modifyAt, List.modify_modify_eq, Function.comp_def, ih]

/-- A change at a path is known by what it does to the table there. -/
theorem modifyAt_congr {first second : Table → Table} {path : List Nat} {table : Table}
    (h : ∀ inner, table.descendant? path = some inner → first inner = second inner) :
    modifyAt first path table = modifyAt second path table := by
  induction path generalizing table with
  | nil => exact h table rfl
  | cons position path ih =>
    simp only [modifyAt]
    congr 1
    apply List.ext_getElem?
    intro index
    simp only [List.getElem?_modify]
    by_cases hindex : position = index
    · subst hindex
      cases hchild : table.children[position]? with
      | none => rfl
      | some child =>
        have hsame : modifyAt first path child.2 = modifyAt second path child.2 :=
          ih fun inner hinner => h inner (by simp only [descendant?, hchild, Option.bind_some, hinner])
        simp only [if_true, Option.map_eq_map, Option.map_some, hsame]
    · simp only [if_neg hindex]

theorem modifyAt_id (path : List Nat) (table : Table) : modifyAt id path table = table := by
  induction path generalizing table with
  | nil => rfl
  | cons position path ih =>
    have hid : (fun child : Nat × Table => (child.1, modifyAt id path child.2)) = id := by
      funext child
      rw [ih]
      rfl
    cases table with
    | mk rows results children => simp only [modifyAt, hid, List.modify_id]

/-- Reading where something was changed shows the change. -/
theorem descendant?_modifyAt (change : Table → Table) (path : List Nat) (table : Table) :
    (modifyAt change path table).descendant? path = (table.descendant? path).map change := by
  induction path generalizing table with
  | nil => rfl
  | cons position path ih =>
    simp only [modifyAt, descendant?, List.getElem?_modify, if_true]
    cases table.children[position]? with
    | none => rfl
    | some child => exact ih child.2

/-- The table with one of the tables attached to it changed. -/
def modifyChild (position : Nat) (change : Table → Table) (table : Table) : Table :=
  { table with
    children := table.children.modify position fun child => (child.1, change child.2) }

/-- An attached table is changed where it stands. -/
theorem children_modifyChild {table child : Table} {front behind : List (Nat × Table)} {row : Nat}
    (h : table.children = front ++ (row, child) :: behind) (change : Table → Table) :
    (table.modifyChild front.length change).children
      = (front ++ [(row, change child)]) ++ behind := by
  rw [modifyChild, h, List.append_assoc]
  exact modify_length_append front (row, child) behind _

/-- What no change inside an attached table touches is the same for all attached tables. -/
theorem map_modifyChild {α : Type} {table : Table} {change : Table → Table} {shown : Nat × Table → α}
    (h : ∀ child, shown (child.1, change child.2) = shown child) (position : Nat) :
    (table.modifyChild position change).children.map shown = table.children.map shown := by
  apply List.ext_getElem?
  intro index
  simp only [modifyChild, List.getElem?_map, List.getElem?_modify]
  split
  · cases table.children[index]? with
    | none => rfl
    | some child => exact congrArg some (h child)
  · cases table.children[index]? <;> rfl

/-- A change in an attached table does not touch the tables attached before it. -/
theorem take_modifyChild {table : Table} {position : Nat} {change : Table → Table} :
    (table.modifyChild position change).children.take position = table.children.take position := by
  rw [modifyChild, List.take_modify, List.modify_eq_self (List.length_take_le _ _)]

end Table

attribute [ext] Board

namespace Board

theorem table?_modifyTable (board : Board) (address : Address) (change : Table → Table) :
    (board.modifyTable address change).table? address = (board.table? address).map change := by
  simp only [modifyTable, table?, List.getElem?_modify, if_true]
  cases board.tables[address.root]? with
  | none => rfl
  | some table => exact Table.descendant?_modifyAt change address.path table

theorem modifyTable_modifyTable (board : Board) (address : Address) (first second : Table → Table) :
    (board.modifyTable address first).modifyTable address second
      = board.modifyTable address (second ∘ first) := by
  simp only [modifyTable, List.modify_modify_eq]
  congr 2
  funext table
  exact Table.modifyAt_modifyAt first second address.path table

/-- A change on the board is known by what it does to the table at the address. -/
theorem modifyTable_congr {board : Board} {address : Address} {first second : Table → Table}
    (h : ∀ table, board.table? address = some table → first table = second table) :
    board.modifyTable address first = board.modifyTable address second := by
  simp only [modifyTable]
  congr 1
  apply List.ext_getElem?
  intro index
  simp only [List.getElem?_modify]
  by_cases hindex : address.root = index
  · subst hindex
    cases htable : board.tables[address.root]? with
    | none => rfl
    | some table =>
      have hsame : Table.modifyAt first address.path table
          = Table.modifyAt second address.path table :=
        Table.modifyAt_congr fun inner hinner =>
          h inner (by simp only [table?, htable, Option.bind_some, hinner])
      simp only [if_true, Option.map_eq_map, Option.map_some, hsame]
  · simp only [if_neg hindex]

theorem modifyTable_id (board : Board) (address : Address) :
    board.modifyTable address id = board := by
  have hid : Table.modifyAt id address.path = id := funext (Table.modifyAt_id address.path)
  simp only [modifyTable, hid, List.modify_id]

/-- The next table goes behind those that are attached already. -/
theorem nextChild_eq {board : Board} {address : Address} {table : Table}
    (h : board.table? address = some table) :
    board.nextChild address = address.child table.children.length := by
  rw [nextChild, h]
  rfl

/-- A change of an attached table changes one child of the table that it is attached to. -/
theorem modifyTable_child (board : Board) (address : Address) (position : Nat)
    (change : Table → Table) :
    board.modifyTable (address.child position) change
      = board.modifyTable address (Table.modifyChild position change) := by
  simp only [modifyTable, Address.child]
  congr 2
  funext table
  exact Table.modifyAt_append change address.path [position] table

/-- A table attached to another is found among that one's children. -/
theorem table?_child (board : Board) (address : Address) (position : Nat) :
    board.table? (address.child position)
      = (board.table? address).bind fun table => (table.children[position]?).map Prod.snd := by
  simp only [table?, Address.child]
  cases board.tables[address.root]? with
  | none => rfl
  | some table =>
    simp only [Option.bind_some, Table.descendant?_append]
    cases table.descendant? address.path with
    | none => rfl
    | some inner =>
      simp only [Option.bind_some, Table.descendant?]
      cases inner.children[position]? <;> rfl

end Board

end ScenarioTables
