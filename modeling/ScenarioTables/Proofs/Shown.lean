import ScenarioTables.Proofs.Marks

/-!
# What the tables show after a run

`Script.Shows` says how a table reads beside the outcomes of its assertions, row by row, and
`Document.Shows` how the tables of a document do. A table as it was when its rows had been read
shows after a run what happened (`Outline.Fresh.shows`), and so does every table of a document
(`Document.tables_show`).
-/

set_option autoImplicit false

namespace ScenarioTables

/-! ## Tables and outcomes side by side -/

/-- A table shows the outcomes of its rows from number `row` on, while the given scenarios are
registered. The id of the table and the number of the next action give the ids of the outcomes. -/
inductive Script.Shows (scenarios : Registry) :
    String → Table → Nat → Nat → List (List String) → List Outcome → Prop
  /-- Where no row is left the table is bare. -/
  | done {tableId : String} {table : Table} {row number : Nat} :
      (∀ later, row ≤ later → table.Bare later) → Shows scenarios tableId table row number [] []
  | note {tableId : String} {table : Table} {row number : Nat} {cells : List String}
      {rest : List (List String)} {outcomes : List Outcome} :
      Row.ofCells scenarios cells = .note → table.Bare row →
      Shows scenarios tableId table (row + 1) number rest outcomes →
      Shows scenarios tableId table row number (cells :: rest) outcomes
  /-- The row of an action carries the outcome of the action. -/
  | action {tableId : String} {table : Table} {row number : Nat} {cells parts : List String}
      {judge : Judge} {rest : List (List String)} {outcome : Outcome} {outcomes : List Outcome} :
      Row.ofCells scenarios cells = .action judge parts →
      outcome.instructionId = tableId ++ "_" ++ toString number →
      table.result? row = outcome.verdict → table.childrenOf row = [] →
      Shows scenarios tableId table (row + 1) (number + 1) rest outcomes →
      Shows scenarios tableId table row number (cells :: rest) (outcome :: outcomes)
  /-- The row of a call carries the outcome of the roll-up, and the one table attached to it holds
  the expanded rows and shows their outcomes. -/
  | call {tableId callId : String} {table child : Table} {row number : Nat}
      {cells arguments : List String} {scenario : Scenario} {rows rest : List (List String)}
      {inner outcomes : List Outcome} {rollUp : Outcome} :
      Row.ofCells scenarios cells = .call scenario arguments →
      scenario.expand (scenario.bindPositional arguments) = .ok rows →
      callId = tableId ++ "_" ++ toString row ++ "/" ++ scenario.tableId →
      rollUp.instructionId = callId ++ "_rollup" → table.result? row = rollUp.verdict →
      table.childrenOf row = [child] → child.rows = rows → child.Bare 0 →
      Shows scenarios callId child 1 0 rows.tail inner →
      Shows scenarios tableId table (row + 1) number rest outcomes →
      Shows scenarios tableId table row number (cells :: rest) (inner ++ rollUp :: outcomes)

/-- The tables of a document show the outcomes of a run, the tables that it was offered before them
apart. A table that was refused is not there, and a scenario table is as it was declared. -/
inductive Document.Shows (defaultKind : String) (depth : Nat) :
    Document → List (List (List String)) → List Table → List Outcome → Prop
  | done {document : Document} : Shows defaultKind depth document [] [] []
  | refused {document : Document} {rows : List (List String)} {fault : Fault}
      {tables : List (List (List String))} {shown : List Table} {outcomes : List Outcome} :
      document.addTable Script.factory defaultKind depth rows = .error (.fault fault) →
      Shows defaultKind depth document tables shown outcomes →
      Shows defaultKind depth document (rows :: tables) shown outcomes
  | declared {document next : Document} {rows : List (List String)}
      {tables : List (List (List String))} {shown : List Table} {outcomes : List Outcome} :
      kindOf rows = scenarioKind →
      document.addTable Script.factory defaultKind depth rows = .ok next →
      Shows defaultKind depth next tables shown outcomes →
      Shows defaultKind depth document (rows :: tables) (Table.ofRows rows :: shown) outcomes
  | script {document next : Document} {rows : List (List String)} {table : Table}
      {tables : List (List (List String))} {shown : List Table} {first outcomes : List Outcome} :
      kindOf rows = Script.kindName →
      document.addTable Script.factory defaultKind depth rows = .ok next →
      table.rows = rows → table.Bare 0 →
      Script.Shows document.context.scenarios document.nextTableId table 1 0 rows.tail first →
      Shows defaultKind depth next tables shown outcomes →
      Shows defaultKind depth document (rows :: tables) (table :: shown) (first ++ outcomes)

/-- A table as it is when the rows from a place on have been built and none of them is marked: what
is attached to these rows is what their outline attaches. -/
structure Outline.Fresh (outline : Outline) (place : Place) (table : Table) : Prop where
  results : ∀ later, place.row ≤ later → table.result? later = none
  children : ∃ front, table.children = front ++ outline.attached place.row
    ∧ front.length = place.position ∧ ∀ child ∈ front, child.1 < place.row

namespace Outline

/-- A table whose rows were read from the second on, as it is before the run. -/
theorem fresh_start {place : Place} (hrow : place.row = 1) (hposition : place.position = 0)
    (rows : List (List String)) (outline : Outline) :
    outline.Fresh place ⟨rows, .empty, outline.attached 1⟩ :=
  ⟨fun _ _ => rfl, [], hrow ▸ rfl, hposition.symm, fun _ hchild => absurd hchild List.not_mem_nil⟩

variable {place : Place} {table : Table} {scenarios : Registry} {rows : List (List String)}
  {outline rest body : Outline} {cells parts : List String} {judge : Judge} {scenario : Scenario}

theorem Fresh.behindNote (h : (Outline.note cells rest).Fresh place table) :
    rest.Fresh place.behindNote table := by
  obtain ⟨front, hchildren, hlength, hfront⟩ := h.children
  exact ⟨fun later hlater => h.results later (Nat.le_of_succ_le hlater), front, hchildren, hlength,
    fun child hchild => Nat.lt_succ_of_lt (hfront child hchild)⟩

theorem Fresh.behindAction (h : (Outline.action cells judge parts rest).Fresh place table)
    (verdict : Option Verdict) :
    rest.Fresh place.behindAction (table.stamp place.row verdict) := by
  obtain ⟨front, hchildren, hlength, hfront⟩ := h.children
  refine ⟨fun later hlater => ?_, front, Table.children_stamp.trans hchildren, hlength,
    fun child hchild => Nat.lt_succ_of_lt (hfront child hchild)⟩
  exact (Table.result?_stamp_of_ne (Nat.ne_of_gt hlater)).trans
    (h.results later (Nat.le_of_succ_le hlater))

/-- What a run does inside a call and to its row touches no row behind it. -/
theorem Fresh.behindCall (h : (Outline.call scenario rows body rest).Fresh place table)
    (change : Table → Table) (verdict : Option Verdict) :
    rest.Fresh (place.behindCall body.callCount)
      ((table.modifyChild place.position change).stamp place.row verdict) := by
  obtain ⟨front, hchildren, hlength, hfront⟩ := h.children
  refine ⟨fun later hlater => ?_, _,
    Table.children_stamp.trans (hlength ▸ Table.children_modifyChild hchildren change), ?_, ?_⟩
  · exact (Table.result?_stamp_of_ne (Nat.ne_of_gt hlater)).trans
      (h.results later (Nat.le_of_succ_le hlater))
  · rw [List.length_append, List.length_singleton, hlength]
    rfl
  · intro child hchild
    rcases List.mem_append.mp hchild with hearlier | hlast
    · exact Nat.lt_succ_of_lt (hfront child hearlier)
    · rw [List.mem_singleton.mp hlast]
      exact Nat.lt_succ_self _

/-- The first of the expanded rows of a call, which is the scenario's header, stays bare. -/
theorem bare_body (rows : List (List String)) (body : Outline)
    (verdicts : List (Option Verdict)) :
    (body.marked 1 0 verdicts ⟨rows, .empty, body.attached 1⟩).Bare 0 :=
  ⟨body.result?_marked Nat.zero_lt_one _ _ _,
    body.childrenOf_marked_nil (fun child hchild =>
      Nat.ne_of_gt (body.le_of_mem_attached 1 child hchild)) _ _ _⟩

/-- A note stays bare. -/
theorem Fresh.bare_note (h : (Outline.note cells rest).Fresh place table)
    (verdicts : List (Option Verdict)) :
    (rest.marked (place.row + 1) place.position verdicts table).Bare place.row := by
  obtain ⟨front, hchildren, -, hfront⟩ := h.children
  refine ⟨?_, rest.childrenOf_marked_nil (rest.ne_of_mem_children hchildren hfront) _ _ _⟩
  exact (rest.result?_marked (Nat.lt_succ_self _) _ _ _).trans (h.results _ (Nat.le_refl _))

/-- The row of an action ends with its verdict and without tables. -/
theorem Fresh.row_action (h : (Outline.action cells judge parts rest).Fresh place table)
    (verdict : Option Verdict) (verdicts : List (Option Verdict)) {marked : Table}
    (hmarked : marked = rest.marked (place.row + 1) place.position verdicts
      (table.stamp place.row verdict)) :
    marked.result? place.row = verdict ∧ marked.childrenOf place.row = [] := by
  obtain ⟨front, hchildren, -, hfront⟩ := h.children
  rw [hmarked]
  refine ⟨rest.result?_marked_stamp (h.results _ (Nat.le_refl _)) _ _ _,
    rest.childrenOf_marked_nil ?_ _ _ _⟩
  exact rest.ne_of_mem_children (Table.children_stamp.trans hchildren) hfront

/-- The row of a call ends with its verdict and with the one table that the call attached. -/
theorem Fresh.row_call (h : (Outline.call scenario rows body rest).Fresh place table)
    (change : Table → Table) (verdict : Option Verdict) (verdicts : List (Option Verdict))
    {marked : Table} (hmarked : marked = rest.marked (place.row + 1) (place.position + 1) verdicts
      ((table.modifyChild place.position change).stamp place.row verdict)) :
    marked.result? place.row = verdict
      ∧ marked.childrenOf place.row = [change ⟨rows, .empty, body.attached 1⟩] := by
  obtain ⟨front, hchildren, hlength, hfront⟩ := h.children
  have hthere : ((table.modifyChild front.length change).stamp place.row verdict).children
      = (front ++ [(place.row, change ⟨rows, .empty, body.attached 1⟩)])
        ++ rest.attached (place.row + 1) :=
    Table.children_stamp.trans (Table.children_modifyChild hchildren change)
  have hafter : (front ++ [(place.row, change ⟨rows, .empty, body.attached 1⟩)]).length
      = front.length + 1 := List.length_append
  have hattached := rest.childrenOf_marked hthere hfront
    (fun child hchild => congrArg Prod.fst (List.mem_singleton.mp hchild)) verdicts
  rw [hafter] at hattached
  have hresult : (table.modifyChild front.length change).result? place.row = none :=
    h.results _ (Nat.le_refl _)
  rw [hmarked, ← hlength]
  exact ⟨rest.result?_marked_stamp hresult _ _ _, hattached⟩

/-- A table that was built shows after a run what happened. -/
theorem Fresh.shows (hfresh : outline.Fresh place table) (h : Expands scenarios rows outline)
    {outcomes : List Outcome}
    (hids : outcomes.map (·.instructionId) = idsOf (outline.checks place)) :
    Script.Shows scenarios place.assignment.tableId
      (outline.marked place.row place.position (outcomes.map (·.verdict)) table) place.row
      place.number rows outcomes := by
  induction h generalizing place table outcomes with
  | done =>
    obtain ⟨front, hchildren, -, hfront⟩ := hfresh.children
    cases List.map_eq_nil_iff.mp hids
    refine .done fun later hlater => ⟨hfresh.results later hlater, ?_⟩
    refine Table.childrenOf_eq_nil fun child hchild => Nat.ne_of_lt ?_
    have hearlier : child ∈ front := List.append_nil front ▸ hchildren ▸ hchild
    exact Nat.lt_of_lt_of_le (hfront child hearlier) hlater
  | note hcells _ ih =>
    exact .note hcells (hfresh.bare_note _) (ih hfresh.behindNote hids)
  | action hcells _ ih =>
    obtain ⟨outcome, later, rfl, hid, hlater⟩ := List.map_eq_cons_iff.mp hids
    obtain ⟨hresult, hnone⟩ := hfresh.row_action outcome.verdict (later.map (·.verdict)) rfl
    exact .action hcells hid hresult hnone (ih (hfresh.behindAction outcome.verdict) hlater)
  | @call cells arguments scenario rows rest body outline hcells hexpand _ _ ihbody ihrest =>
    rw [checks, idsOf_append, idsOf_append, List.append_assoc] at hids
    obtain ⟨inner, behind, rfl, hinner, hbehind⟩ := List.map_eq_append_iff.mp hids
    obtain ⟨rollUp, later, rfl, hid, hlater⟩ := List.map_eq_cons_iff.mp hbehind
    have hlength : (inner.map (·.verdict)).length = body.checkCount := by
      have hchecks := congrArg List.length hinner
      rw [List.length_map, idsOf, List.length_map, length_checks] at hchecks
      rw [List.length_map, hchecks]
    rw [List.map_append, List.map_cons, marked_call scenario rows body outline _ _ hlength]
    obtain ⟨hresult, hchild⟩ := hfresh.row_call (body.marked 1 0 (inner.map (·.verdict)))
      rollUp.verdict (later.map (·.verdict)) rfl
    exact .call hcells hexpand rfl hid hresult hchild (rows_marked _ _ _ _ _)
      (bare_body rows body _) (ihbody (fresh_start rfl rfl rows body) hinner)
      (ihrest (hfresh.behindCall _ _) hlater)

end Outline

/-! ## The tables of a document -/

namespace Document

variable {defaultKind : String} {depth : Nat} {document next last : Document}
  {rows : List (List String)} {outline : Outline} {σ : Type} {fixture : Fixture σ}
  {state state' : σ} {board board' : Board} {outcomes : List Outcome}

/-- A script is put behind the other tables, with what its calls attached. -/
theorem tables_scripted (document : Document) (rows : List (List String)) (outline : Outline) :
    (document.scripted rows outline).tables
      = document.tables ++ [⟨rows, .empty, outline.attached 1⟩] :=
  modify_length_append document.tables (Table.ofRows rows) [] _

/-- Running a script changes its table, and none of the tables around it. -/
theorem shows_scripted (houtline : Expands document.context.scenarios rows.tail outline)
    {finished others : List Table} (hfinished : finished.length = document.tables.length)
    (hboard : board.tables = finished ++ ⟨rows, .empty, outline.attached 1⟩ :: others)
    (hrun : runChecks fixture (outline.checks (document.place rows)) state board
      = some (outcomes, state', board')) :
    ∃ table : Table, board'.tables = finished ++ table :: others ∧ table.rows = rows ∧ table.Bare 0
      ∧ Script.Shows document.context.scenarios document.nextTableId table 1 0 rows.tail
          outcomes := by
  refine ⟨outline.marked 1 0 (outcomes.map (·.verdict)) ⟨rows, .empty, outline.attached 1⟩, ?_,
    Outline.rows_marked _ _ _ _ _, Outline.bare_body rows outline _, ?_⟩
  · rw [Outline.tables_runChecks hrun, Board.modifyTable, hboard]
    change List.modify _ document.tables.length _ = _
    rw [← hfinished]
    exact modify_length_append finished _ others _
  · have hfresh : outline.Fresh (document.place rows) ⟨rows, .empty, outline.attached 1⟩ :=
      Outline.fresh_start rfl rfl rows outline
    exact hfresh.shows houtline (runChecks_ids hrun)

/-- What becomes of the tables of a document when another table is offered. -/
theorem tables_of_offer (hoffer : document.offer defaultKind depth rows = some next) :
    (∃ fault, document.addTable Script.factory defaultKind depth rows = .error (.fault fault)
        ∧ next = document)
      ∨ document.addTable Script.factory defaultKind depth rows = .ok next
        ∧ ((kindOf rows = scenarioKind ∧ next.checks = document.checks
            ∧ next.tables = document.tables ++ [Table.ofRows rows])
          ∨ (kindOf rows = Script.kindName
            ∧ ∃ outline, Expands document.context.scenarios rows.tail outline
              ∧ next = document.scripted rows outline)) := by
  rcases offer_cases hoffer with ⟨hkind, outline, houtline, -, rfl⟩ | ⟨hkind, rfl⟩
    | ⟨hscript, hscenario, rfl⟩
  · have htaken := addTable_of_offer hoffer fun heq => by
      have hlength := congrArg (·.tables.length) heq
      rw [length_scripted] at hlength
      exact absurd hlength (Nat.succ_ne_self _)
    exact .inr ⟨htaken, .inr ⟨hkind, outline, houtline, rfl⟩⟩
  · rw [addTable_scenario hkind, declared_eq]
    cases Scenario.ofRows? document.nextTableId rows with
    | error fault => exact .inl ⟨fault, rfl, rfl⟩
    | ok scenario => exact .inr ⟨rfl, .inl ⟨hkind, rfl, rfl⟩⟩
  · exact .inl ⟨_, addTable_other hscript hscenario, rfl⟩

/-- What offered tables add to a document, and how the tables among it look after a run. -/
theorem shows_offerAll (fixture : Fixture σ) {tables : List (List (List String))}
    (h : document.offerAll defaultKind depth tables = some last) :
    ∃ made added, last.checks = document.checks ++ made ∧ last.tables = document.tables ++ added
      ∧ ∀ {state state' : σ} {board board' : Board} {outcomes : List Outcome}
          {finished : List Table}, finished.length = document.tables.length →
          board.tables = finished ++ added →
          runChecks fixture made state board = some (outcomes, state', board') →
          ∃ shown, board'.tables = finished ++ shown
            ∧ Shows defaultKind depth document tables shown outcomes := by
  induction tables generalizing document with
  | nil =>
    cases h
    refine ⟨[], [], (List.append_nil _).symm, (List.append_nil _).symm, ?_⟩
    intro state state' board board' outcomes finished _ hboard hrun
    cases hrun
    exact ⟨[], hboard, .done⟩
  | cons rows tables ih =>
    obtain ⟨next, hoffer, hrest⟩ := offerAll_cons_eq_some.mp h
    obtain ⟨made, added, hchecks, htables, hshows⟩ := ih hrest
    rcases tables_of_offer hoffer with ⟨fault, hfault, rfl⟩ | ⟨htaken, ⟨hkind, hsame, hadded⟩ |
      ⟨hkind, outline, houtline, rfl⟩⟩
    · refine ⟨made, added, hchecks, htables, ?_⟩
      intro state state' board board' outcomes finished hfinished hboard hrun
      obtain ⟨shown, hshown, hlater⟩ := hshows hfinished hboard hrun
      exact ⟨shown, hshown, .refused hfault hlater⟩
    · refine ⟨made, Table.ofRows rows :: added, hsame ▸ hchecks, ?_, ?_⟩
      · rw [htables, hadded, List.append_assoc, List.singleton_append]
      intro state state' board board' outcomes finished hfinished hboard hrun
      have hlength : (finished ++ [Table.ofRows rows]).length = next.tables.length := by
        rw [hadded, List.length_append, List.length_append, hfinished]
      obtain ⟨shown, hshown, hlater⟩ :=
        hshows hlength (hboard.trans (List.append_assoc finished [_] added).symm) hrun
      refine ⟨Table.ofRows rows :: shown, ?_, .declared hkind htaken hlater⟩
      exact hshown.trans (List.append_assoc finished [_] shown)
    · refine ⟨outline.checks (document.place rows) ++ made,
        ⟨rows, .empty, outline.attached 1⟩ :: added, ?_, ?_, ?_⟩
      · exact hchecks.trans (List.append_assoc _ _ _)
      · rw [htables, tables_scripted, List.append_assoc, List.singleton_append]
      intro state state' board board' outcomes finished hfinished hboard hrun
      obtain ⟨first, inner, middle, later, hfirst, hlater, rfl⟩ := runChecks_append hrun
      obtain ⟨table, hmiddle, hrows, hbare, hscript⟩ :=
        shows_scripted houtline hfinished hboard hfirst
      have hlength : (finished ++ [table]).length
          = (document.scripted rows outline).tables.length := by
        rw [length_scripted, List.length_append, List.length_singleton, hfinished]
      obtain ⟨shown, hshown, hrest⟩ :=
        hshows hlength (hmiddle.trans (List.append_assoc finished [table] added).symm) hlater
      refine ⟨table :: shown, hshown.trans (List.append_assoc finished [table] shown), ?_⟩
      exact .script hkind htaken hrows hbare hscript hrest

/-- **What the tables show is what happened.** A document that comes of its tables can be run as
long as no verdict is given `2 ^ 32` times, and after every run each table in it, those attached to
other tables at any depth included, shows what happened. Its first row, every note and every row
behind its last carry no result and no table. The row of an action carries the outcome of this
action, and no table. The row of a call carries the outcome of the call's roll-up and has one table,
which holds the expanded rows of the scenario and shows in turn what happened in the call. A table
that declares a scenario stays as it was. -/
theorem tables_show {tables : List (List (List String))}
    (h : ofTables defaultKind depth tables = some document) (fixture : Fixture σ) (state : σ) :
    ((∀ verdict, (fixture.verdicts state (questionsOf document.checks)).count (some verdict)
        < UInt32.size) → (document.run fixture state).isSome)
      ∧ ∀ outcomes last document', document.run fixture state = some (outcomes, last, document') →
          Shows defaultKind depth .empty tables document'.tables outcomes := by
  refine ⟨run_isSome (grows_offerAll h) fixture state, ?_⟩
  intro outcomes last document' hrun
  obtain ⟨⟨_, _, board⟩, hchecks, heq⟩ := Option.map_eq_some_iff.mp hrun
  cases heq
  obtain ⟨made, added, hmade, hadded, hshows⟩ := shows_offerAll fixture h
  rw [show document.checks = made from hmade] at hchecks
  have hboard : document.board.tables = [] ++ added := hadded
  obtain ⟨shown, hshown, htables⟩ := hshows rfl hboard hchecks
  rw [show (document.withBoard board).tables = shown from hshown]
  exact htables

/-- Of the tables of a document with nested calls the two that declare scenarios stay without
results, and the script and the two tables attached below it show the six outcomes. -/
theorem tables_show_nestedCalls : ∃ document outcomes last document',
    ofTables Script.kindName 2 nestedCalls = some document
      ∧ document.run numbering 0 = some (outcomes, last, document')
      ∧ (document'.tables.map fun table => table.listing.map (·.results))
        = [[[none, none]], [[none, none, none, none]],
          [[none, some .fail, some .fail], [none, some .fail, some .pass, some .fail],
            [none, some .fail]]]
      ∧ Shows Script.kindName 2 .empty nestedCalls document'.tables outcomes := by
  obtain ⟨document, hdocument, hverdicts⟩ := verdicts_nestedCalls
  obtain ⟨hsome, hshows⟩ := tables_show hdocument numbering 0
  have hroom (verdict : Verdict) :
      (numbering.verdicts 0 (questionsOf document.checks)).count (some verdict) < UInt32.size := by
    rw [hverdicts]
    cases verdict <;> decide
  obtain ⟨⟨outcomes, last, document'⟩, hrun⟩ := Option.isSome_iff_exists.mp (hsome hroom)
  have hlisting : (((ofTables Script.kindName 2 nestedCalls).bind (·.run numbering 0)).map
      fun reached => reached.2.2.tables.map fun table => table.listing.map (·.results))
        = some [[[none, none]], [[none, none, none, none]],
          [[none, some .fail, some .fail], [none, some .fail, some .pass, some .fail],
            [none, some .fail]]] := by decide +kernel
  rw [hdocument, Option.bind_some, hrun, Option.map_some, Option.some_inj] at hlisting
  exact ⟨document, outcomes, last, document', hdocument, hrun, hlisting,
    hshows outcomes last document' hrun⟩

end Document

end ScenarioTables
