import ScenarioTables.Document
import ScenarioTables.Proofs.Binding
import ScenarioTables.Proofs.Growth
import ScenarioTables.Proofs.Outline

/-!
# Reading a script

Over the factory that makes scripts only, reading the rows of a script does what their outline says
and nothing else: the assertions are the outline's, and the board has grown by the outline's tables
and accounts (`assertionsFrom_of_expands`). Rows without an outline, or with one that is too deep,
stop the reading at the limit of depth, and nothing else stops it (`expands_or_tooDeep`).

A reading starts at a place of a board (`Place.StandsOn`): the table that is read is there, and the
next attached table and the next account have the numbers that the place foretells.
-/

set_option autoImplicit false

namespace ScenarioTables

namespace Build

variable {α β : Type} {x : Build α} {f : α → Build β} {board after : Board}

/-- A step that succeeds hands its value and its board on. -/
theorem bind_ok {value : α} (h : x board = (.ok value, after)) :
    (x >>= f) board = f value after := by
  change (fun reached => ExceptT.bindCont f reached.1 reached.2) (x board) = _
  rw [h]
  rfl

/-- A step that stops is the last one. -/
theorem bind_error {stop : Stop} (h : x board = (.error stop, after)) :
    (x >>= f) board = (.error stop, after) := by
  change (fun reached => ExceptT.bindCont f reached.1 reached.2) (x board) = _
  rw [h]
  rfl

/-- Whatever the board, a stop of the first step is the stop of both. -/
theorem bind_fst_error {stop : Stop} (h : (x board).1 = .error stop) :
    ((x >>= f) board).1 = .error stop :=
  congrArg Prod.fst (bind_error (Prod.ext h rfl : x board = (.error stop, (x board).2)))

end Build

/-- What calls are made with over the factory of scripts. -/
def scriptSetting (defaultKind : String) (scenarios : Registry) : Setting :=
  ⟨Script.factory, defaultKind, scenarios⟩

/-- The means to call scenarios over the factory of scripts, to a depth. -/
def scriptExpander (defaultKind : String) (scenarios : Registry) (depth : Nat) : Expander :=
  ⟨scenarios, Scenario.call (scriptSetting defaultKind scenarios) depth⟩

namespace Place

/-- The place lies in a script on the board, and the script's table and the ledger are as long as
the place says. -/
structure StandsOn (place : Place) (board : Board) : Prop where
  kind : place.assignment.kind = Script.kindName
  account : board.ledger.calls.length = place.account
  table : ∃ table, board.table? place.assignment.table = some table
    ∧ table.children.length = place.position

variable {place : Place} {board : Board}

theorem StandsOn.behindNote (h : place.StandsOn board) : place.behindNote.StandsOn board :=
  ⟨h.kind, h.account, h.table⟩

theorem StandsOn.behindAction (h : place.StandsOn board) : place.behindAction.StandsOn board :=
  ⟨h.kind, h.account, h.table⟩

/-- The next account that is opened is that of a call at the place. -/
theorem StandsOn.nest_scope (h : place.StandsOn board) :
    (board.ledger.nest place.site.scope).1 = place.innerScope := by
  rw [Place.innerScope, ← h.account]
  rfl

/-- The body of a call stands on the opened board. -/
theorem StandsOn.inside (h : place.StandsOn board) (scenario : Scenario)
    (rows : List (List String)) :
    (place.inside scenario rows).StandsOn (board.opened place.site (Table.ofRows rows)) := by
  obtain ⟨table, htable, hposition⟩ := h.table
  refine ⟨h.kind, ?_, Table.ofRows rows, ?_, rfl⟩
  · simp only [Board.opened_calls, List.length_append, List.length_singleton, h.account, Place.inside]
  · have hchild := Board.table?_opened_child
      (show board.table? place.site.table = some table from htable) (Table.ofRows rows)
    rw [hposition] at hchild
    exact hchild

/-- Behind a call the place stands on the board that has grown by the call. -/
theorem StandsOn.behindCall (h : place.StandsOn board) (child : Table) (calls : Nat) :
    (place.behindCall calls).StandsOn
      (board.grown place.assignment.table [(place.row, child)] (1 + calls)) := by
  obtain ⟨table, htable, hposition⟩ := h.table
  refine ⟨h.kind, ?_, _, (Board.table?_grown _ _ _ _).trans (congrArg _ htable), ?_⟩
  · simp only [Board.grown_calls, List.length_append, List.length_replicate, h.account,
      Place.behindCall, Nat.add_assoc]
  · simp only [List.length_append, List.length_singleton, hposition, Place.behindCall]

end Place

namespace Script

/-- For its one kind the factory makes a script. -/
theorem factory_make {assignment : Assignment} (h : assignment.kind = kindName) :
    factory.make assignment = .ok (interpreter assignment) := by
  unfold Factory.make
  rw [h]
  rfl

/-- The bodies of calls in scripts are scripts, whatever the default kind. -/
theorem factory_childKind (defaultKind : String) :
    factory.childKind defaultKind kindName = kindName := rfl

end Script

variable (defaultKind : String) {scenarios : Registry}

namespace Scenario

/-- What the interpreter of a call's expanded rows is made for. -/
def bodyAssignment (setting : Setting) (scenario : Scenario) (site : CallSite)
    (rows : List (List String)) (board : Board) : Assignment where
  kind := setting.factory.childKind setting.defaultKind site.kind
  table := board.nextChild site.table
  rows
  tableId := scenario.callId site
  parent := some site.table
  scope := (board.ledger.nest site.scope).1

section

variable {setting : Setting} {scenario : Scenario} {binding : Binding} {site : CallSite}
  {rows : List (List String)} {board : Board} {fault : Fault}

/-- A call whose rows cannot be expanded does nothing. -/
theorem call_of_expand_error (h : scenario.expand binding = .error fault) (depth : Nat) :
    scenario.call setting (depth + 1) binding site board = (.error (.fault fault), board) := by
  unfold call
  refine Build.bind_error ?_
  rw [h]
  rfl

/-- A call opens its account and then reads what its interpreter makes of the opened board. -/
private theorem call_eq_attachBody (hexpand : scenario.expand binding = .ok rows) (depth : Nat) :
    scenario.call setting (depth + 1) binding site board
      = (do
          let interpreter ← scenario.attachBody setting site (board.ledger.nest site.scope).1 rows
          let body ← interpreter.assertions ⟨setting.scenarios, call setting depth⟩
          return body ++ [scenario.rollUp site (board.ledger.nest site.scope).1 interpreter.parent]
          : Build (List Check)) { board with ledger := (board.ledger.nest site.scope).2 } := by
  have hexpanded : Build.ofExcept (scenario.expand binding) board = (.ok rows, board) := by
    rw [hexpand]
    rfl
  have hscope : Build.openScope site.scope board = (.ok (board.ledger.nest site.scope).1,
      { board with ledger := (board.ledger.nest site.scope).2 }) := rfl
  unfold call
  exact (Build.bind_ok hexpanded).trans (Build.bind_ok hscope)

/-- A call for which no interpreter can be made leaves an account behind. -/
theorem call_of_make_error (hexpand : scenario.expand binding = .ok rows)
    (h : setting.factory.make (scenario.bodyAssignment setting site rows board) = .error fault)
    (depth : Nat) : scenario.call setting (depth + 1) binding site board
      = (.error (.fault fault), { board with ledger := (board.ledger.nest site.scope).2 }) := by
  rw [call_eq_attachBody hexpand]
  refine Build.bind_error ((Build.bind_ok rfl).trans (Build.bind_error ?_))
  exact congrArg (Build.ofExcept · { board with ledger := (board.ledger.nest site.scope).2 }) h

/-- A call whose interpreter is made has it read the opened board, and closes with the roll-up. -/
theorem call_of_made (hexpand : scenario.expand binding = .ok rows) {interpreter : Interpreter}
    (h : setting.factory.make (scenario.bodyAssignment setting site rows board) = .ok interpreter)
    (depth : Nat) : scenario.call setting (depth + 1) binding site board
      = (do
          let body ← interpreter.assertions ⟨setting.scenarios, call setting depth⟩
          return body ++ [scenario.rollUp site (board.ledger.nest site.scope).1 interpreter.parent]
          : Build (List Check)) (board.opened site interpreter.table) := by
  rw [call_eq_attachBody hexpand]
  refine Build.bind_ok ((Build.bind_ok rfl).trans (Build.bind_ok ?_))
  exact congrArg (Build.ofExcept · { board with ledger := (board.ledger.nest site.scope).2 }) h

end

/-- The body of a call made at a place is read at the place inside. -/
theorem bodyAssignment_script {place : Place} {board : Board} (h : place.StandsOn board)
    (scenario : Scenario) (rows : List (List String)) :
    scenario.bodyAssignment (scriptSetting defaultKind scenarios) place.site rows board
      = (place.inside scenario rows).assignment := by
  obtain ⟨table, htable, hposition⟩ := h.table
  have hchild : board.nextChild place.site.table = place.assignment.table.child place.position := by
    rw [← hposition]
    exact Board.nextChild_eq htable
  have hkind : Script.factory.childKind defaultKind place.site.kind = place.assignment.kind := by
    rw [show place.site.kind = place.assignment.kind from rfl, h.kind]
    exact Script.factory_childKind defaultKind
  simp only [bodyAssignment, scriptSetting, hchild, hkind, h.nest_scope, Place.inside]
  rfl

/-- A call reads its body on the opened board and closes it with the roll-up. -/
theorem call_succ {place : Place} {board : Board} (h : place.StandsOn board)
    {scenario : Scenario} {binding : Binding} {rows : List (List String)}
    (hexpand : scenario.expand binding = .ok rows) (depth : Nat) :
    Scenario.call (scriptSetting defaultKind scenarios) (depth + 1) scenario binding place.site board
      = (do
          let body ← Script.assertionsFrom (place.inside scenario rows).assignment
            (scriptExpander defaultKind scenarios depth) 1 0 rows.tail
          return body ++ [place.rollUp scenario] : Build (List Check))
        (board.opened place.site (Table.ofRows rows)) := by
  have hmade : Script.factory.make (scenario.bodyAssignment (scriptSetting defaultKind scenarios)
      place.site rows board) = .ok (Script.interpreter (place.inside scenario rows).assignment) := by
    rw [bodyAssignment_script defaultKind h]
    exact Script.factory_make (show (place.inside scenario rows).assignment.kind = _ from h.kind)
  refine (call_of_made hexpand hmade depth).trans ?_
  rw [h.nest_scope]
  rfl

end Scenario

namespace Script

variable {expander : Expander} {assignment : Assignment} {cells : List String}
  {rest : List (List String)}

theorem assertionsFrom_note (h : Row.ofCells expander.scenarios cells = .note) (row number : Nat) :
    assertionsFrom assignment expander row number (cells :: rest)
      = assertionsFrom assignment expander (row + 1) number rest := by
  rw [assertionsFrom, h]

theorem assertionsFrom_action {judge : Judge} {parts : List String}
    (h : Row.ofCells expander.scenarios cells = .action judge parts) (row number : Nat) :
    assertionsFrom assignment expander row number (cells :: rest)
      = (do
          let checks ← assertionsFrom assignment expander (row + 1) (number + 1) rest
          return actionCheck assignment row number judge parts :: checks) := by
  rw [assertionsFrom, h]

theorem assertionsFrom_call {scenario : Scenario} {arguments : List String}
    (h : Row.ofCells expander.scenarios cells = .call scenario arguments) (row number : Nat) :
    assertionsFrom assignment expander row number (cells :: rest)
      = (do
          let block ← expander.call scenario (scenario.bindPositional arguments)
            (siteOf assignment row)
          let checks ← assertionsFrom assignment expander (row + 1) number rest
          return block ++ checks) := by
  rw [assertionsFrom, h]

end Script

/-- The board after rows with an outline have been read from a place on. -/
def Board.after (board : Board) (place : Place) (outline : Outline) : Board :=
  board.grown place.assignment.table (outline.attached place.row) outline.callCount

/-- The assertions of a call: those of its body and the roll-up. -/
def Place.block (place : Place) (scenario : Scenario) (rows : List (List String))
    (body : Outline) : List Check :=
  body.checks (place.inside scenario rows) ++ [place.rollUp scenario]

/-- The board after a call whose body has an outline. -/
def Board.afterCall (board : Board) (place : Place) (rows : List (List String)) (body : Outline) :
    Board :=
  board.grown place.assignment.table [(place.row, ⟨rows, .empty, body.attached 1⟩)]
    (1 + body.callCount)

/-- A call whose body is read as its outline says yields its block. -/
theorem Scenario.call_of_body {place : Place} {board : Board} (h : place.StandsOn board)
    {scenario : Scenario} {binding : Binding} {rows : List (List String)} {body : Outline}
    (hexpand : scenario.expand binding = .ok rows) {depth : Nat}
    (hbody : Script.assertionsFrom (place.inside scenario rows).assignment
        (scriptExpander defaultKind scenarios depth) 1 0 rows.tail
        (board.opened place.site (Table.ofRows rows))
      = (.ok (body.checks (place.inside scenario rows)),
          (board.opened place.site (Table.ofRows rows)).after (place.inside scenario rows) body)) :
    Scenario.call (scriptSetting defaultKind scenarios) (depth + 1) scenario binding place.site board
      = (.ok (place.block scenario rows body), board.afterCall place rows body) := by
  obtain ⟨table, htable, hposition⟩ := h.table
  rw [Scenario.call_succ defaultKind h hexpand]
  refine (Build.bind_ok hbody).trans ?_
  have hboard : (board.opened place.site (Table.ofRows rows)).after (place.inside scenario rows) body
      = board.afterCall place rows body := by
    have hgrown : (board.opened place.site (Table.ofRows rows)).grown
        (place.assignment.table.child table.children.length) (body.attached 1) body.callCount
          = board.afterCall place rows body :=
      Board.opened_grown (show board.table? place.site.table = some table from htable) _ _ _
    rw [hposition] at hgrown
    exact hgrown
  rw [hboard]
  rfl

/-- Rows with an outline are read as the outline says, if calls may nest deeply enough. -/
theorem assertionsFrom_of_expands {rows : List (List String)} {outline : Outline}
    (h : Expands scenarios rows outline) {depth : Nat} (hdepth : outline.depth ≤ depth)
    {place : Place} {board : Board} (hplace : place.StandsOn board) :
    Script.assertionsFrom place.assignment (scriptExpander defaultKind scenarios depth) place.row
        place.number rows board
      = (.ok (outline.checks place), board.after place outline) := by
  induction h generalizing depth place board with
  | done =>
    rw [Board.after, Outline.attached, Outline.callCount, Board.grown_nothing]
    rfl
  | note hcells _ ih =>
    rw [Script.assertionsFrom_note hcells]
    exact ih hdepth hplace.behindNote
  | action hcells _ ih =>
    rw [Script.assertionsFrom_action hcells]
    exact Build.bind_ok (ih hdepth hplace.behindAction)
  | @call cells arguments scenario rows rest body outline hcells hexpand _ _ ihbody ihrest =>
    simp only [Outline.depth, Nat.max_le] at hdepth
    -- The call takes one level: its body is read at one less, the rows behind it at all of them.
    obtain ⟨depth, rfl⟩ : ∃ d, depth = d + 1 := ⟨depth - 1, by omega⟩
    have hblock := Scenario.call_of_body defaultKind hplace hexpand
      (ihbody (show body.depth ≤ depth by omega) (hplace.inside scenario rows))
    have hrest := ihrest hdepth.2 (hplace.behindCall ⟨rows, .empty, body.attached 1⟩ body.callCount)
    rw [Script.assertionsFrom_call hcells]
    refine (Build.bind_ok hblock).trans ((Build.bind_ok hrest).trans ?_)
    have hboard := Board.grown_grown board place.assignment.table
      [(place.row, ⟨rows, .empty, body.attached 1⟩)] (outline.attached (place.row + 1))
      (1 + body.callCount) outline.callCount
    exact congrArg (Prod.mk (Except.ok _)) hboard

/-- A call of a scenario whose rows have an outline yields its block. -/
theorem Scenario.call_of_expands {place : Place} {board : Board} (h : place.StandsOn board)
    {scenario : Scenario} {binding : Binding} {rows : List (List String)} {body : Outline}
    (hexpand : scenario.expand binding = .ok rows) (hbody : Expands scenarios rows.tail body)
    {depth : Nat} (hdepth : body.depth < depth) :
    Scenario.call (scriptSetting defaultKind scenarios) depth scenario binding place.site board
      = (.ok (place.block scenario rows body), board.afterCall place rows body) := by
  obtain ⟨depth, rfl⟩ : ∃ d, depth = d + 1 := ⟨depth - 1, by omega⟩
  exact Scenario.call_of_body defaultKind h hexpand
    (assertionsFrom_of_expands defaultKind hbody (Nat.le_of_lt_succ hdepth) (h.inside scenario rows))

/-- Rows have an outline within the allowed depth, or reading them stops at that limit. -/
theorem expands_or_tooDeep (defaultKind : String) (scenarios : Registry) (depth : Nat)
    (rows : List (List String)) :
    (∃ outline, Expands scenarios rows outline ∧ outline.depth ≤ depth) ∨
      ∀ (place : Place) (board : Board), place.StandsOn board →
        (Script.assertionsFrom place.assignment (scriptExpander defaultKind scenarios depth)
          place.row place.number rows board).1 = .error .tooDeep := by
  -- Depth outside and rows inside: a body can have any rows, but it has a level less.
  induction depth using Nat.strongRecOn generalizing rows with
  | ind depth ihdepth =>
    induction rows with
    | nil => exact Or.inl ⟨.done, .done, Nat.zero_le _⟩
    | cons cells rest ihrest =>
      cases hcells : Script.Row.ofCells scenarios cells with
      | note =>
        rcases ihrest with ⟨outline, houtline, hdepth⟩ | hdeep
        · exact Or.inl ⟨_, .note hcells houtline, hdepth⟩
        · refine Or.inr fun place board hplace => ?_
          rw [Script.assertionsFrom_note hcells]
          exact hdeep place.behindNote board hplace.behindNote
      | action judge parts =>
        rcases ihrest with ⟨outline, houtline, hdepth⟩ | hdeep
        · exact Or.inl ⟨_, .action hcells houtline, hdepth⟩
        · refine Or.inr fun place board hplace => ?_
          rw [Script.assertionsFrom_action hcells]
          exact Build.bind_fst_error (hdeep place.behindAction board hplace.behindAction)
      | call scenario arguments =>
        obtain ⟨rows, hexpand⟩ := scenario.expand_bindPositional arguments
        cases depth with
        | zero =>
          refine Or.inr fun place board _ => ?_
          rw [Script.assertionsFrom_call hcells]
          exact Build.bind_fst_error rfl
        | succ depth =>
          rcases ihdepth depth (Nat.lt_succ_self _) rows.tail with ⟨body, hbody, hdepth⟩ | hdeep
          · rcases ihrest with ⟨outline, houtline, hrest⟩ | hdeep
            · refine Or.inl ⟨_, .call hcells hexpand hbody houtline, ?_⟩
              exact Nat.max_le.mpr ⟨Nat.succ_le_succ hdepth, hrest⟩
            · refine Or.inr fun place board hplace => ?_
              rw [Script.assertionsFrom_call hcells]
              have hblock := Scenario.call_of_expands defaultKind hplace hexpand hbody
                (Nat.lt_succ_of_le hdepth)
              refine (congrArg Prod.fst (Build.bind_ok hblock)).trans ?_
              exact Build.bind_fst_error (hdeep _ _ (hplace.behindCall _ _))
          · refine Or.inr fun place board hplace => ?_
            rw [Script.assertionsFrom_call hcells]
            apply Build.bind_fst_error
            refine (congrArg Prod.fst (Scenario.call_succ defaultKind hplace hexpand depth)).trans ?_
            apply Build.bind_fst_error
            exact hdeep _ _ (hplace.inside scenario rows)

end ScenarioTables
