import ScenarioTables.Proofs.Ids

/-!
# Which rows a run marks

A row is marked by one assertion only: an action marks its own row, and the roll-up of a call the
calling row. So what a run does to the table of a script is a structural function of the outline and
of the verdicts (`Outline.marked`), whatever the board is on which it happens
(`Outline.tables_runChecks`): the assertions of a call change the table that the call attached, and
nothing else of the calling table than its row.
-/

set_option autoImplicit false

namespace ScenarioTables

/-! ## Changes of one table -/

namespace Table

/-- The table with a verdict on a row, if there is one. -/
def stamp (row : Nat) (verdict : Option Verdict) (table : Table) : Table :=
  match verdict with
  | some verdict => table.mark row verdict
  | none => table

/-- A row carries no result, and no table is attached to it. -/
structure Bare (table : Table) (row : Nat) : Prop where
  result : table.result? row = none
  children : table.childrenOf row = []

variable {table : Table} {row other : Nat} {verdict : Option Verdict}

@[simp] theorem stamp_none (row : Nat) : Table.stamp row none = id := rfl

@[simp] theorem rows_stamp : (table.stamp row verdict).rows = table.rows := by
  cases verdict <;> rfl

@[simp] theorem children_stamp : (table.stamp row verdict).children = table.children := by
  cases verdict <;> rfl

theorem result?_stamp_of_ne (h : other ≠ row) :
    (table.stamp row verdict).result? other = table.result? other := by
  cases verdict with
  | none => rfl
  | some verdict =>
    exact (Dictionary.find?_insert table.results row other verdict).trans (if_neg (Ne.symm h))

theorem result?_stamp (h : table.result? row = none) :
    (table.stamp row verdict).result? row = verdict := by
  cases verdict with
  | none => exact h
  | some verdict => exact (Dictionary.find?_insert table.results row row verdict).trans (if_pos rfl)

/-- The tables attached to a row are found between those of the rows before and behind. -/
theorem childrenOf_eq {front middle behind : List (Nat × Table)}
    (h : table.children = front ++ middle ++ behind) (hfront : ∀ child ∈ front, child.1 < row)
    (hmiddle : ∀ child ∈ middle, child.1 = row) (hbehind : ∀ child ∈ behind, row < child.1) :
    table.childrenOf row = middle.map Prod.snd := by
  have hbefore : front.filter (·.1 == row) = [] := by
    refine List.filter_eq_nil_iff.mpr fun child hchild => ?_
    have := hfront child hchild
    simp only [beq_iff_eq]
    omega
  have hafter : behind.filter (·.1 == row) = [] := by
    refine List.filter_eq_nil_iff.mpr fun child hchild => ?_
    have := hbehind child hchild
    simp only [beq_iff_eq]
    omega
  have hthere : middle.filter (·.1 == row) = middle :=
    List.filter_eq_self.mpr fun child hchild => beq_iff_eq.mpr (hmiddle child hchild)
  rw [childrenOf, h, List.filter_append, List.filter_append, hbefore, hafter, hthere,
    List.nil_append, List.append_nil]

theorem childrenOf_eq_nil (h : ∀ child ∈ table.children, child.1 ≠ row) :
    table.childrenOf row = [] := by
  have hnone : table.children.filter (·.1 == row) = [] :=
    List.filter_eq_nil_iff.mpr fun child hchild => by simpa using h child hchild
  rw [childrenOf, hnone, List.map_nil]

end Table

theorem Board.tables_modifyTable {first second : Board} (h : first.tables = second.tables)
    (address : Address) (change : Table → Table) :
    (first.modifyTable address change).tables = (second.modifyTable address change).tables :=
  congrArg (List.modify · _ _) h

/-! ## What one check does to the tables -/

section

variable {σ : Type} {fixture : Fixture σ} {state state' : σ} {board board' : Board}
  {outcome : Outcome}

/-- An outcome goes by the id of its instruction. -/
theorem performCheck_id {check : Check}
    (h : performCheck fixture check state board = some (outcome, state', board')) :
    outcome.instructionId = check.instruction.id := by
  obtain ⟨instruction, expectation⟩ := check
  cases instruction with
  | noop id =>
    rw [performCheck_noop] at h
    obtain ⟨judged, -, heq⟩ := Option.map_eq_some_iff.mp h
    cases heq
    rfl
  | call id actor method arguments =>
    rw [performCheck_call] at h
    obtain ⟨judged, -, heq⟩ := Option.map_eq_some_iff.mp h
    cases heq
    rfl

/-- The outcomes of a run carry the ids of its checks, in order. -/
theorem runChecks_ids {checks : List Check} {outcomes : List Outcome}
    (h : runChecks fixture checks state board = some (outcomes, state', board')) :
    outcomes.map (·.instructionId) = idsOf checks := by
  induction checks generalizing state board outcomes with
  | nil => cases h; rfl
  | cons check checks ih =>
    obtain ⟨outcome, inner, middle, later, hcheck, hrest, rfl⟩ := runChecks_cons_eq_some.mp h
    rw [List.map_cons, ih hrest, performCheck_id hcheck]
    rfl

/-- A row of a script marks itself with its verdict. -/
theorem tables_perform_row {id actor method : String} {arguments : List String} {judge : Judge}
    {table : Address} {row : Nat} {scope : Scope}
    (h : performCheck fixture ⟨.call id actor method arguments, .row judge table row scope⟩ state
      board = some (outcome, state', board')) :
    board'.tables = (board.modifyTable table (Table.stamp row outcome.verdict)).tables := by
  rw [performCheck_call, Expectation.evaluate] at h
  cases hverdict : judge.verdict?
      (Reply.ofAnswer (fixture (.call id actor method arguments) state).1) with
  | none =>
    rw [evaluateRow_of_none hverdict] at h
    cases h
    exact congrArg Board.tables (board.modifyTable_id table).symm
  | some verdict =>
    rw [evaluateRow_of_some hverdict, Option.map_map] at h
    obtain ⟨ledger, -, heq⟩ := Option.map_eq_some_iff.mp h
    cases heq
    rfl

/-- The roll-up of a call marks the calling row with its outcome. -/
theorem tables_perform_rollUp {id : String} {scope : Scope} {table : Address} {row : Nat}
    {declaresOutputs : Bool}
    (h : performCheck fixture ⟨.noop id, .rollUp scope (some table) row declaresOutputs⟩ state board
      = some (outcome, state', board')) :
    board'.tables = (board.modifyTable table (Table.stamp row outcome.verdict)).tables := by
  rw [performCheck_noop, Expectation.evaluate, evaluateRollUp_eq] at h
  split at h
  · cases h
    rw [Table.stamp_none, Board.modifyTable_id]
  · cases h
    rfl

end

/-! ## What a run does to the table of a script -/

namespace Outline

/-- The number of assertions. -/
def checkCount : Outline → Nat
  | .done => 0
  | .note _ rest => rest.checkCount
  | .action _ _ _ rest => rest.checkCount + 1
  | .call _ _ body rest => body.checkCount + 1 + rest.checkCount

@[simp] theorem length_checks (outline : Outline) (place : Place) :
    (outline.checks place).length = outline.checkCount := by
  induction outline generalizing place with
  | done => rfl
  | note cells rest ih => exact ih place.behindNote
  | action cells judge parts rest ih => exact congrArg (· + 1) (ih place.behindAction)
  | call scenario rows body rest ihbody ihrest =>
    simp only [checks, checkCount, List.length_append, List.length_singleton, ihbody, ihrest]

/-- What the verdicts of rows with an outline do to the table of these rows. The rows are read from
number `row` on, and `position` tables were attached to the table before. -/
def marked : Outline → Nat → Nat → List (Option Verdict) → Table → Table
  | .done, _, _, _, table => table
  | .note _ rest, row, position, verdicts, table => rest.marked (row + 1) position verdicts table
  | .action _ _ _ rest, row, position, verdicts, table =>
    rest.marked (row + 1) position verdicts.tail (table.stamp row verdicts.head?.join)
  | .call _ _ body rest, row, position, verdicts, table =>
    rest.marked (row + 1) (position + 1) (verdicts.drop (body.checkCount + 1))
      ((table.modifyChild position (body.marked 1 0 (verdicts.take body.checkCount))).stamp row
        (verdicts[body.checkCount]?).join)

/-- The verdicts of a call stand between those of its body and those of the rows behind it. -/
theorem marked_call (scenario : Scenario) (rows : List (List String)) (body rest : Outline)
    (row position : Nat) {inner : List (Option Verdict)} (hinner : inner.length = body.checkCount)
    (verdict : Option Verdict) (later : List (Option Verdict)) (table : Table) :
    (Outline.call scenario rows body rest).marked row position (inner ++ verdict :: later) table
      = rest.marked (row + 1) (position + 1) later
          ((table.modifyChild position (body.marked 1 0 inner)).stamp row verdict) := by
  have hdrop : (inner ++ verdict :: later).drop (inner.length + 1) = later := by
    rw [← List.drop_drop, List.drop_left]
    rfl
  have hget : (inner ++ verdict :: later)[inner.length]? = some verdict := by
    rw [List.getElem?_append_right (Nat.le_refl _), Nat.sub_self]
    rfl
  rw [marked, ← hinner, hdrop, hget, List.take_left]
  rfl

/-- A run of the assertions of rows changes the table of the rows as their verdicts say, and no
other table of the board. -/
theorem tables_runChecks {σ : Type} {fixture : Fixture σ} {state state' : σ} {board board' : Board}
    {outline : Outline} {place : Place} {outcomes : List Outcome}
    (h : runChecks fixture (outline.checks place) state board = some (outcomes, state', board')) :
    board'.tables = (board.modifyTable place.assignment.table
      (outline.marked place.row place.position (outcomes.map (·.verdict)))).tables := by
  induction outline generalizing place state state' board board' outcomes with
  | done =>
    cases h
    exact congrArg Board.tables (board.modifyTable_id place.assignment.table).symm
  | note cells rest ih => exact ih h
  | action cells judge parts rest ih =>
    obtain ⟨outcome, inner, middle, later, hcheck, hrest, rfl⟩ := runChecks_cons_eq_some.mp h
    have hlater : board'.tables = (middle.modifyTable place.assignment.table (rest.marked
        (place.row + 1) place.position (later.map (·.verdict)))).tables := ih hrest
    rw [hlater, Board.tables_modifyTable (tables_perform_row hcheck), Board.modifyTable_modifyTable]
    rfl
  | call scenario rows body rest ihbody ihrest =>
    obtain ⟨block, reached, middle, later, hblock, hrest, rfl⟩ := runChecks_append h
    obtain ⟨inner, inside, closing, ending, hbody, hrollUp, rfl⟩ := runChecks_append hblock
    obtain ⟨outcome, _, _, _, hcheck, hnil, rfl⟩ := runChecks_cons_eq_some.mp hrollUp
    cases hnil
    have hlength : (inner.map (·.verdict)).length = body.checkCount := by
      rw [List.length_map, length_runChecks hbody, length_checks]
    have hchild : closing.tables = (board.modifyTable place.assignment.table
        (Table.modifyChild place.position (body.marked 1 0 (inner.map (·.verdict))))).tables :=
      (ihbody hbody).trans (congrArg Board.tables (board.modifyTable_child _ _ _))
    have hlater : board'.tables = (middle.modifyTable place.assignment.table (rest.marked
        (place.row + 1) (place.position + 1) (later.map (·.verdict)))).tables := ihrest hrest
    rw [hlater, Board.tables_modifyTable (tables_perform_rollUp hcheck),
      Board.tables_modifyTable (Board.tables_modifyTable hchild _ _), Board.modifyTable_modifyTable,
      Board.modifyTable_modifyTable]
    congr 2
    funext table
    rw [List.append_assoc, List.map_append, List.singleton_append, List.map_cons,
      marked_call scenario rows body rest _ _ hlength]
    rfl

/-! ## How a marked table reads -/

/-- Marking leaves the cells. -/
@[simp] theorem rows_marked (outline : Outline) (row position : Nat)
    (verdicts : List (Option Verdict)) (table : Table) :
    (outline.marked row position verdicts table).rows = table.rows := by
  induction outline generalizing row position verdicts table with
  | done => rfl
  | note cells rest ih => exact ih _ _ _ _
  | action cells judge parts rest ih => exact (ih _ _ _ _).trans Table.rows_stamp
  | call scenario rows body rest ihbody ihrest => exact (ihrest _ _ _ _).trans Table.rows_stamp

/-- The rows above are left alone. -/
theorem result?_marked (outline : Outline) {above row : Nat} (h : above < row) (position : Nat)
    (verdicts : List (Option Verdict)) (table : Table) :
    (outline.marked row position verdicts table).result? above = table.result? above := by
  induction outline generalizing row position verdicts table with
  | done => rfl
  | note cells rest ih => exact ih (Nat.lt_succ_of_lt h) _ _ _
  | action cells judge parts rest ih =>
    exact (ih (Nat.lt_succ_of_lt h) _ _ _).trans (Table.result?_stamp_of_ne (Nat.ne_of_lt h))
  | call scenario rows body rest ihbody ihrest =>
    exact (ihrest (Nat.lt_succ_of_lt h) _ _ _).trans (Table.result?_stamp_of_ne (Nat.ne_of_lt h))

/-- Every attached table stays with its row. -/
theorem keys_marked (outline : Outline) (row position : Nat) (verdicts : List (Option Verdict))
    (table : Table) : (outline.marked row position verdicts table).children.map Prod.fst
      = table.children.map Prod.fst := by
  induction outline generalizing row position verdicts table with
  | done => rfl
  | note cells rest ih => exact ih _ _ _ _
  | action cells judge parts rest ih =>
    exact (ih _ _ _ _).trans (congrArg _ Table.children_stamp)
  | call scenario rows body rest ihbody ihrest =>
    exact (ihrest _ _ _ _).trans ((congrArg _ Table.children_stamp).trans
      (Table.map_modifyChild (fun _ => rfl) position))

/-- The tables that were attached before are left alone. -/
theorem take_marked (outline : Outline) (row position : Nat) (verdicts : List (Option Verdict))
    (table : Table) : (outline.marked row position verdicts table).children.take position
      = table.children.take position := by
  induction outline generalizing row position verdicts table with
  | done => rfl
  | note cells rest ih => exact ih _ _ _ _
  | action cells judge parts rest ih =>
    exact (ih _ _ _ _).trans (congrArg _ Table.children_stamp)
  | call scenario rows body rest ihbody ihrest =>
    have hbehind (verdicts : List (Option Verdict)) (table : Table) :
        (rest.marked (row + 1) (position + 1) verdicts table).children.take position
          = table.children.take position := by
      have h := congrArg (List.take position) (ihrest (row + 1) (position + 1) verdicts table)
      rwa [List.take_take, List.take_take, Nat.min_eq_left (Nat.le_succ position)] at h
    exact (hbehind _ _).trans ((congrArg _ Table.children_stamp).trans Table.take_modifyChild)

/-- The tables attached before stay, and each of the others stays with its row. -/
theorem children_marked (outline : Outline) (row : Nat) (verdicts : List (Option Verdict))
    {table : Table} {front others : List (Nat × Table)} (h : table.children = front ++ others) :
    ∃ others', (outline.marked row front.length verdicts table).children = front ++ others'
      ∧ others'.map Prod.fst = others.map Prod.fst := by
  have htake := outline.take_marked row front.length verdicts table
  have hkeys := outline.keys_marked row front.length verdicts table
  rw [h, List.take_left] at htake
  refine ⟨(outline.marked row front.length verdicts table).children.drop front.length, ?_, ?_⟩
  · exact (List.take_append_drop _ _).symm.trans (congrArg (· ++ _) htake)
  · rw [List.map_drop, hkeys, h, List.map_append, ← List.length_map (f := Prod.fst),
      List.drop_left]

/-- Every row that a table is attached to is one of the rows that are read. -/
theorem le_of_mem_attached (outline : Outline) (row : Nat) :
    ∀ child ∈ outline.attached row, row ≤ child.1 := by
  induction outline generalizing row with
  | done => intro child hchild; cases hchild
  | note cells rest ih => exact fun child hchild => Nat.le_of_succ_le (ih (row + 1) child hchild)
  | action cells judge parts rest ih =>
    exact fun child hchild => Nat.le_of_succ_le (ih (row + 1) child hchild)
  | call scenario rows body rest ihbody ihrest =>
    intro child hchild
    rcases List.mem_cons.mp hchild with rfl | hrest
    · exact Nat.le_refl _
    · exact Nat.le_of_succ_le (ihrest (row + 1) child hrest)

/-- A row that was marked stays marked while the rows below it are. -/
theorem result?_marked_stamp (outline : Outline) {row : Nat} {table : Table}
    (h : table.result? row = none) (position : Nat) (verdicts : List (Option Verdict))
    (verdict : Option Verdict) :
    (outline.marked (row + 1) position verdicts (table.stamp row verdict)).result? row = verdict :=
  (outline.result?_marked (Nat.lt_succ_self row) _ _ _).trans (Table.result?_stamp h)

/-- When the rows below `row` have been read, the tables attached to it are those that were attached
before. -/
theorem childrenOf_marked (outline : Outline) {row : Nat} {table : Table}
    {front middle : List (Nat × Table)}
    (h : table.children = (front ++ middle) ++ outline.attached (row + 1))
    (hfront : ∀ child ∈ front, child.1 < row) (hmiddle : ∀ child ∈ middle, child.1 = row)
    (verdicts : List (Option Verdict)) :
    (outline.marked (row + 1) (front ++ middle).length verdicts table).childrenOf row
      = middle.map Prod.snd := by
  obtain ⟨others, hchildren, hkeys⟩ := outline.children_marked (row + 1) verdicts h
  refine Table.childrenOf_eq hchildren hfront hmiddle ?_
  intro child hchild
  have hkey : child.1 ∈ (outline.attached (row + 1)).map Prod.fst :=
    hkeys ▸ List.mem_map_of_mem hchild
  obtain ⟨attached, hattached, hsame⟩ := List.mem_map.mp hkey
  rw [← hsame]
  exact outline.le_of_mem_attached (row + 1) attached hattached

/-- A row that nothing was attached to stays without tables. -/
theorem childrenOf_marked_nil (outline : Outline) {other : Nat} {table : Table}
    (h : ∀ child ∈ table.children, child.1 ≠ other) (row position : Nat)
    (verdicts : List (Option Verdict)) :
    (outline.marked row position verdicts table).childrenOf other = [] := by
  refine Table.childrenOf_eq_nil fun child hchild => ?_
  have hkey : child.1 ∈ table.children.map Prod.fst :=
    outline.keys_marked row position verdicts table ▸ List.mem_map_of_mem hchild
  obtain ⟨attached, hattached, hsame⟩ := List.mem_map.mp hkey
  exact hsame ▸ h attached hattached

/-- Nothing is attached to a row between those that were read before and those that follow. -/
theorem ne_of_mem_children (outline : Outline) {row : Nat} {table : Table}
    {front : List (Nat × Table)} (h : table.children = front ++ outline.attached (row + 1))
    (hfront : ∀ child ∈ front, child.1 < row) : ∀ child ∈ table.children, child.1 ≠ row := by
  intro child hchild
  rcases List.mem_append.mp (h ▸ hchild) with hearlier | hlater
  · exact Nat.ne_of_lt (hfront child hearlier)
  · exact Nat.ne_of_gt (outline.le_of_mem_attached (row + 1) child hlater)

end Outline

end ScenarioTables
