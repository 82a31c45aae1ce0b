import ScenarioTables.Proofs.Settlement
import ScenarioTables.Proofs.Shown

/-!
# A document as a list of sheets

A sheet is one table of a document together with what its rows amount to. A document adds the sheets
of the tables that it takes (`Document.Adds`): their tables and assertions stand behind those that
are there, in accounts of their own. Which sheets these are depends on the scenarios of the document
and on the number of its tables only (`Document.Agrees.offerAll`).

Running a document comes to what the results settle, sheet by sheet: every sheet uses up the results
of its own actions, and its table is marked with what they come to (`Document.Adds.run`). Nothing
that stands before or behind a sheet has a part in it.
-/

set_option autoImplicit false

namespace ScenarioTables

/-- One table of a document with the outline of its rows. There is nothing to carry out in the table
of a scenario. -/
structure Sheet where
  rows : List (List String)
  outline : Outline
  silent : Document.kindOf rows = scenarioKind → outline = .done

namespace Sheet

/-- The table as it is before a run. -/
def table (sheet : Sheet) : Table :=
  ⟨sheet.rows, .empty, sheet.outline.attached 1⟩

/-- The table as it is after a run in which its actions had the given results. -/
def shown (sheet : Sheet) (results : List (Option Verdict)) : Table :=
  sheet.outline.marked 1 0 (sheet.outline.settled results) sheet.table

/-- The place at which the rows are read when some tables and some accounts are there before. -/
def place (sheet : Sheet) (tables accounts : Nat) : Place where
  assignment :=
    { kind := Script.kindName
      table := ⟨tables, []⟩
      rows := sheet.rows
      tableId := "table_" ++ toString tables
      parent := none
      scope := [] }
  row := 1
  number := 0
  account := accounts
  position := 0

/-- A run leaves the cells of a table. -/
@[simp] theorem rows_shown (sheet : Sheet) (results : List (Option Verdict)) :
    (sheet.shown results).rows = sheet.rows :=
  Outline.rows_marked _ _ _ _ _

/-- The table of a scenario is never marked, and nothing is attached to it. -/
theorem shown_scenario {sheet : Sheet} (h : Document.kindOf sheet.rows = scenarioKind)
    (results : List (Option Verdict)) : sheet.shown results = Table.ofRows sheet.rows := by
  rw [shown, table, sheet.silent h]
  rfl

/-- A sheet lies outside all calls. -/
theorem place_sound (sheet : Sheet) (tables accounts : Nat) : (sheet.place tables accounts).Sound :=
  ⟨List.Pairwise.nil, fun _ hnumber => absurd hnumber List.not_mem_nil⟩

/-! ## Several sheets -/

/-- The number of calls in some sheets. -/
def callCount : List Sheet → Nat
  | [] => 0
  | sheet :: rest => sheet.outline.callCount + callCount rest

/-- The number of actions in some sheets. -/
def actionCount : List Sheet → Nat
  | [] => 0
  | sheet :: rest => sheet.outline.asks.length + actionCount rest

/-- The assertions of some sheets when some tables and some accounts are there before. -/
def checks : Nat → Nat → List Sheet → List Check
  | _, _, [] => []
  | tables, accounts, sheet :: rest =>
    sheet.outline.checks (sheet.place tables accounts)
      ++ checks (tables + 1) (accounts + sheet.outline.callCount) rest

/-- Some sheets, each with the results of its own actions. -/
def dealt : List Sheet → List (Option Verdict) → List (Sheet × List (Option Verdict))
  | [], _ => []
  | sheet :: rest, results =>
    (sheet, results.take sheet.outline.asks.length)
      :: dealt rest (results.drop sheet.outline.asks.length)

/-- The outcomes of some sheets whose actions have the given results. -/
def settled (sheets : List Sheet) (results : List (Option Verdict)) : List (Option Verdict) :=
  (dealt sheets results).flatMap fun (sheet, own) => sheet.outline.settled own

/-- The tables of some sheets whose actions had the given results. -/
def allShown (sheets : List Sheet) (results : List (Option Verdict)) : List Table :=
  (dealt sheets results).map fun (sheet, own) => sheet.shown own

theorem callCount_append (first second : List Sheet) :
    callCount (first ++ second) = callCount first + callCount second := by
  induction first with
  | nil => exact (Nat.zero_add _).symm
  | cons sheet first ih => rw [List.cons_append, callCount, callCount, ih, Nat.add_assoc]

theorem checks_append (tables accounts : Nat) (first second : List Sheet) :
    checks tables accounts (first ++ second) = checks tables accounts first
      ++ checks (tables + first.length) (accounts + callCount first) second := by
  induction first generalizing tables accounts with
  | nil => rfl
  | cons sheet first ih =>
    have htables : tables + (sheet :: first).length = tables + 1 + first.length := by
      rw [List.length_cons]
      omega
    have haccounts : accounts + callCount (sheet :: first)
        = accounts + sheet.outline.callCount + callCount first :=
      (Nat.add_assoc _ _ _).symm
    rw [List.cons_append, checks, checks, ih, List.append_assoc, htables, haccounts]

theorem length_questions (tables accounts : Nat) (sheets : List Sheet) :
    (questionsOf (checks tables accounts sheets)).length = actionCount sheets := by
  induction sheets generalizing tables accounts with
  | nil => rfl
  | cons sheet sheets ih =>
    rw [checks, questionsOf_append, List.length_append, Outline.length_questions, ih]
    rfl

/-- The first sheets get the first results, and those behind them the others. -/
theorem dealt_append (first second : List Sheet) {results more : List (Option Verdict)}
    (h : results.length = actionCount first) :
    dealt (first ++ second) (results ++ more) = dealt first results ++ dealt second more := by
  induction first generalizing results with
  | nil =>
    rw [List.length_eq_zero_iff.mp h]
    rfl
  | cons sheet first ih =>
    have hle : sheet.outline.asks.length ≤ results.length := by
      rw [h]
      exact Nat.le_add_right _ _
    have hrest : (results.drop sheet.outline.asks.length).length = actionCount first := by
      rw [List.length_drop, h]
      exact Nat.add_sub_cancel_left _ _
    rw [List.cons_append, dealt, dealt, List.take_append_of_le_length hle,
      List.drop_append_of_le_length hle, ih hrest, List.cons_append]

theorem settled_append (first second : List Sheet) {results more : List (Option Verdict)}
    (h : results.length = actionCount first) :
    settled (first ++ second) (results ++ more) = settled first results ++ settled second more := by
  rw [settled, dealt_append first second h, List.flatMap_append, settled, settled]

theorem allShown_append (first second : List Sheet) {results more : List (Option Verdict)}
    (h : results.length = actionCount first) :
    allShown (first ++ second) (results ++ more)
      = allShown first results ++ allShown second more := by
  rw [allShown, dealt_append first second h, List.map_append, allShown, allShown]

theorem map_fst_dealt (sheets : List Sheet) (results : List (Option Verdict)) :
    (dealt sheets results).map Prod.fst = sheets := by
  induction sheets generalizing results with
  | nil => rfl
  | cons sheet sheets ih => rw [dealt, List.map_cons, ih]

/-- A run leaves the cells of all tables. -/
theorem rows_allShown (sheets : List Sheet) (results : List (Option Verdict)) :
    (allShown sheets results).map (·.rows) = sheets.map (·.rows) := by
  rw [allShown, List.map_map, ← congrArg (List.map Sheet.rows) (map_fst_dealt sheets results),
    List.map_map]
  exact List.map_congr_left fun _ _ => rows_shown _ _

/-- Scenario tables are shown as they were declared. -/
theorem scenario_allShown (sheets : List Sheet) (results : List (Option Verdict)) :
    ∀ table ∈ allShown sheets results, Document.kindOf table.rows = scenarioKind →
      table = Table.ofRows table.rows := by
  intro table htable hkind
  obtain ⟨⟨sheet, own⟩, -, rfl⟩ := List.mem_map.mp htable
  rw [rows_shown] at hkind ⊢
  exact shown_scenario hkind _

/-! ## Running sheets -/

variable {σ : Type} {fixture : Fixture σ} {state state' : σ} {board board' : Board}
  {outcomes : List Outcome} {tables accounts : Nat} {finished others : List Table}

/-- A run of the assertions of a sheet marks its table with what the results settle. -/
theorem run (sheet : Sheet) (hbounded : board.ledger.Bounded)
    (huntouched : sheet.outline.Untouched (sheet.place tables accounts) board)
    (hfinished : finished.length = tables) (hboard : board.tables = finished ++ sheet.table :: others)
    (h : runChecks fixture (sheet.outline.checks (sheet.place tables accounts)) state board
      = some (outcomes, state', board')) :
    outcomes.map (·.verdict) = sheet.outline.settled
        (fixture.verdicts state (questionsOf (sheet.outline.checks (sheet.place tables accounts))))
      ∧ board'.tables = finished ++ sheet.shown
        (fixture.verdicts state (questionsOf (sheet.outline.checks (sheet.place tables accounts))))
          :: others := by
  have hverdicts := Outline.verdicts_runChecks (sheet.place_sound tables accounts) hbounded
    huntouched h
  refine ⟨hverdicts, ?_⟩
  rw [Outline.tables_runChecks h, hverdicts, Board.modifyTable, hboard, shown]
  change List.modify _ tables _ = _
  rw [← hfinished]
  exact modify_length_append finished _ others _

/-- A run of the assertions of some sheets marks the tables of these sheets, and no others, with
what the results settle. -/
theorem run_checks {sheets : List Sheet} (hbounded : board.ledger.Bounded)
    (huntouched : ∀ number, accounts ≤ number → number < accounts + callCount sheets →
      board.ledger.calls[number]? = some ⟨.zero, false⟩)
    (hfinished : finished.length = tables)
    (hboard : board.tables = finished ++ (sheets.map Sheet.table ++ others))
    (h : runChecks fixture (checks tables accounts sheets) state board
      = some (outcomes, state', board')) :
    outcomes.map (·.verdict)
        = settled sheets (fixture.verdicts state (questionsOf (checks tables accounts sheets)))
      ∧ board'.tables = finished
        ++ (allShown sheets (fixture.verdicts state (questionsOf (checks tables accounts sheets)))
          ++ others) := by
  induction sheets generalizing tables accounts state state' board board' outcomes finished with
  | nil =>
    cases h
    exact ⟨rfl, hboard⟩
  | cons sheet sheets ih =>
    obtain ⟨first, inner, middle, later, hfirst, hlater, rfl⟩ := runChecks_append h
    have hcount : callCount (sheet :: sheets) = sheet.outline.callCount + callCount sheets := rfl
    have hproper := @Outline.proper_of_mem_checks _ sheet.outline
      (sheet.place_sound tables accounts)
    have huntouched' : sheet.outline.Untouched (sheet.place tables accounts) board := by
      intro number hge hlt
      simp only [place] at hge hlt
      exact huntouched number hge (by omega)
    have hbehind : ∀ number, accounts + sheet.outline.callCount ≤ number →
        number < accounts + sheet.outline.callCount + callCount sheets →
        middle.ledger.calls[number]? = some ⟨.zero, false⟩ := by
      intro number hge hlt
      rw [getElem?_runChecks hproper hbounded (fun check hcheck =>
        (Outline.within_of_mem_checks (sheet.place_sound tables accounts) check hcheck).outside
          List.not_mem_nil (Or.inr hge)) hfirst]
      exact huntouched number (by omega) (by omega)
    obtain ⟨hverdicts, htables⟩ := sheet.run hbounded huntouched' hfinished hboard hfirst
    obtain ⟨-, rfl⟩ := results_of_run hproper hbounded hfirst
    have hlength : (finished ++ [sheet.shown (fixture.verdicts state (questionsOf
        (sheet.outline.checks (sheet.place tables accounts))))]).length = tables + 1 := by
      rw [List.length_append, List.length_singleton, hfinished]
    obtain ⟨hverdicts', htables'⟩ := ih (runChecks_bounded hproper hbounded hfirst) hbehind hlength
      (htables.trans (List.append_assoc finished [_] _).symm) hlater
    have hasks := fixture.length_verdicts state
      (questionsOf (sheet.outline.checks (sheet.place tables accounts)))
    rw [Outline.length_questions] at hasks
    rw [checks, questionsOf_append, Fixture.verdicts_append, settled, allShown, dealt,
      List.take_left' hasks, List.drop_left' hasks, List.map_append, hverdicts, hverdicts']
    exact ⟨rfl, htables'.trans (List.append_assoc finished [_] _)⟩

end Sheet

/-! ## The sheets of a document -/

namespace Document

variable {defaultKind : String} {depth : Nat} {document other next last : Document}
  {rows : List (List String)} {sheets : List Sheet}

/-- Whether a document takes a table, calls that nest without end apart: it takes every script and
every scenario that has a name. -/
def takes (rows : List (List String)) : Bool :=
  kindOf rows = Script.kindName ∨ (kindOf rows = scenarioKind ∧ 2 ≤ (Table.ofRows rows).columnCount 0)

/-- A document added some sheets to be another: their tables and their assertions stand behind the
others, in accounts that are new. -/
structure Adds (document : Document) (sheets : List Sheet) (last : Document) : Prop where
  tables : last.tables = document.tables ++ sheets.map Sheet.table
  accounts : last.accounts = document.accounts + Sheet.callCount sheets
  checks : last.checks
    = document.checks ++ Sheet.checks document.tables.length document.accounts sheets

/-- Documents that give the next table the same id and have the same scenarios for it to call. -/
structure Agrees (document other : Document) : Prop where
  scenarios : other.context.scenarios = document.context.scenarios
  count : other.tables.length = document.tables.length

theorem Adds.refl (document : Document) : document.Adds [] document :=
  ⟨(List.append_nil _).symm, rfl, (List.append_nil _).symm⟩

theorem Adds.length (h : document.Adds sheets last) :
    last.tables.length = document.tables.length + sheets.length := by
  rw [h.tables, List.length_append, List.length_map]

theorem Adds.trans {more : List Sheet} (hfirst : document.Adds sheets next)
    (hlast : next.Adds more last) : document.Adds (sheets ++ more) last := by
  refine ⟨?_, ?_, ?_⟩
  · rw [hlast.tables, hfirst.tables, List.map_append, List.append_assoc]
  · rw [hlast.accounts, hfirst.accounts, Sheet.callCount_append, Nat.add_assoc]
  · rw [hlast.checks, hfirst.checks, Sheet.checks_append, hfirst.length, hfirst.accounts,
      List.append_assoc]

/-- Documents that agree give their next tables one id. -/
theorem Agrees.nextTableId (h : document.Agrees other) : other.nextTableId = document.nextTableId := by
  rw [Document.nextTableId, h.count, Document.nextTableId]

/-- The sheet of a script. -/
def scriptSheet (h : kindOf rows = Script.kindName) (outline : Outline) : Sheet :=
  ⟨rows, outline, fun hscenario => absurd (h.symm.trans hscenario) (by decide)⟩

/-- The sheet of a scenario. -/
def scenarioSheet (rows : List (List String)) : Sheet :=
  ⟨rows, .done, fun _ => rfl⟩

/-- A script adds its sheet. -/
theorem adds_scripted (document : Document) (sheet : Sheet) :
    document.Adds [sheet] (document.scripted sheet.rows sheet.outline) :=
  ⟨document.tables_scripted sheet.rows sheet.outline,
    document.accounts_scripted sheet.rows sheet.outline,
    congrArg (document.checks ++ ·) (List.append_nil _).symm⟩

/-- Documents that agree still do after a script. -/
theorem agrees_scripted (h : document.Agrees other) (rows : List (List String)) (outline : Outline) :
    (document.scripted rows outline).Agrees (other.scripted rows outline) := by
  refine ⟨h.scenarios, ?_⟩
  rw [length_scripted, length_scripted, h.count]

/-- A table declares a scenario if its first row has a cell for the name. -/
theorem ofRows?_cases (tableId : String) (rows : List (List String)) :
    (2 ≤ (Table.ofRows rows).columnCount 0 ∧ ∃ scenario, Scenario.ofRows? tableId rows = .ok scenario)
      ∨ ((Table.ofRows rows).columnCount 0 < 2
        ∧ Scenario.ofRows? tableId rows = .error .unnamedScenario) := by
  rcases rows with _ | ⟨_ | ⟨label, _ | ⟨nameCell, rest⟩⟩, body⟩
  · exact .inr ⟨by decide, rfl⟩
  · exact .inr ⟨Nat.zero_lt_two, rfl⟩
  · exact .inr ⟨Nat.one_lt_two, rfl⟩
  · refine .inl ⟨Nat.le_add_left 2 rest.length, ?_⟩
    rw [Scenario.ofRows?, Header.ofRows?, List.head?_cons, Option.getD_some, Header.ofCells?]
    split <;> exact ⟨_, rfl⟩

/-- Scripts are among the tables that can be taken. -/
theorem takes_script (h : kindOf rows = Script.kindName) : takes rows = true :=
  decide_eq_true (Or.inl h)

/-- A table that is not taken leaves the document as it is. -/
theorem offer_of_not_takes (document : Document) (h : ¬ takes rows = true) :
    document.offer defaultKind depth rows = some document := by
  by_cases hscenario : kindOf rows = scenarioKind
  · rcases ofRows?_cases document.nextTableId rows with ⟨htwo, -⟩ | ⟨-, hrefused⟩
    · exact absurd (decide_eq_true (Or.inr ⟨hscenario, htwo⟩)) h
    · rw [offer_scenario hscenario, Document.declared_eq, hrefused]
  · exact offer_other (fun hscript => h (takes_script hscript)) hscenario

/-- A scenario table is declared in every document, or in none. -/
theorem Agrees.declared (h : document.Agrees other) (hkind : kindOf rows = scenarioKind) :
    ∃ sheets, (document.declared rows).Agrees (other.declared rows)
      ∧ document.Adds sheets (document.declared rows) ∧ other.Adds sheets (other.declared rows)
      ∧ sheets.map (·.rows) = [rows].filter takes := by
  have hnot : kindOf rows ≠ Script.kindName := by
    rw [hkind]
    decide
  rw [Document.declared_eq, Document.declared_eq, h.nextTableId]
  rcases ofRows?_cases document.nextTableId rows with ⟨htwo, scenario, hscenario⟩ | ⟨hless, hrefused⟩
  · have htakes : takes rows = true := decide_eq_true (Or.inr ⟨hkind, htwo⟩)
    rw [hscenario]
    refine ⟨[scenarioSheet rows], ⟨?_, ?_⟩, ⟨rfl, rfl, (List.append_nil _).symm⟩,
      ⟨rfl, rfl, (List.append_nil _).symm⟩, ?_⟩
    · simp only [Context.register, h.scenarios]
    · simp only [List.length_append, h.count]
    · rw [List.filter_cons_of_pos htakes]
      rfl
  · have htakes : ¬ takes rows = true := by
      rw [takes, decide_eq_true_iff]
      rintro (hscript | ⟨-, htwo⟩)
      · exact hnot hscript
      · omega
    rw [hrefused]
    refine ⟨[], h, .refl document, .refl other, ?_⟩
    rw [List.filter_cons_of_neg htakes]
    rfl

/-- Documents that agree take a table alike: they add the same sheets, and agree again. -/
theorem Agrees.offer (h : document.Agrees other)
    (hoffer : document.offer defaultKind depth rows = some next) :
    ∃ sheets next', other.offer defaultKind depth rows = some next' ∧ next.Agrees next'
      ∧ document.Adds sheets next ∧ other.Adds sheets next'
      ∧ sheets.map (·.rows) = [rows].filter takes := by
  rcases offer_cases hoffer with ⟨hkind, outline, houtline, hdepth, rfl⟩ | ⟨hkind, rfl⟩ |
    ⟨hscript, hscenario, rfl⟩
  · rw [← h.scenarios] at houtline
    refine ⟨[scriptSheet hkind outline], _, offer_script hkind houtline hdepth,
      agrees_scripted h rows outline, adds_scripted document (scriptSheet hkind outline),
      adds_scripted other (scriptSheet hkind outline), ?_⟩
    rw [List.filter_cons_of_pos (takes_script hkind)]
    rfl
  · obtain ⟨sheets, hagrees, hadds, hadds', hrows⟩ := h.declared hkind
    exact ⟨sheets, _, offer_scenario hkind, hagrees, hadds, hadds', hrows⟩
  · have htakes : ¬ takes rows = true := by
      rw [takes, decide_eq_true_iff]
      rintro (hkind | ⟨hkind, -⟩)
      · exact hscript hkind
      · exact hscenario hkind
    refine ⟨[], other, offer_other hscript hscenario, h, .refl _, .refl other, ?_⟩
    rw [List.filter_cons_of_neg htakes]
    rfl

/-- Documents that agree take several tables alike. -/
theorem Agrees.offerAll {tables : List (List (List String))} (h : document.Agrees other)
    (hlast : document.offerAll defaultKind depth tables = some last) :
    ∃ sheets last', other.offerAll defaultKind depth tables = some last' ∧ last.Agrees last'
      ∧ document.Adds sheets last ∧ other.Adds sheets last'
      ∧ sheets.map (·.rows) = tables.filter takes := by
  induction tables generalizing document other with
  | nil =>
    cases hlast
    exact ⟨[], other, rfl, h, .refl _, .refl other, rfl⟩
  | cons rows tables ih =>
    obtain ⟨next, hoffer, hrest⟩ := offerAll_cons_eq_some.mp hlast
    obtain ⟨first, next', hoffer', hagrees, hfirst, hfirst', hrows⟩ := h.offer hoffer
    obtain ⟨more, last', hrest', hagrees', hmore, hmore', hrows'⟩ := ih hagrees hrest
    refine ⟨first ++ more, last', offerAll_cons_eq_some.mpr ⟨next', hoffer', hrest'⟩, hagrees',
      hfirst.trans hmore, hfirst'.trans hmore', ?_⟩
    rw [List.map_append, hrows, hrows', ← List.filter_append, List.singleton_append]

theorem agrees_refl (document : Document) : document.Agrees document := ⟨rfl, rfl⟩

/-- A document that took some tables added their sheets. -/
theorem adds_offerAll {tables : List (List (List String))}
    (h : document.offerAll defaultKind depth tables = some last) :
    ∃ sheets, document.Adds sheets last ∧ sheets.map (·.rows) = tables.filter takes := by
  obtain ⟨sheets, -, -, -, hadds, -, hrows⟩ := document.agrees_refl.offerAll h
  exact ⟨sheets, hadds, hrows⟩

/-- Tables can be offered in two stretches. -/
theorem offerAll_append_eq_some {tables more : List (List (List String))} :
    document.offerAll defaultKind depth (tables ++ more) = some last ↔
      ∃ next, document.offerAll defaultKind depth tables = some next
        ∧ next.offerAll defaultKind depth more = some last := by
  simp only [Document.offerAll, List.foldlM_append, Option.bind_eq_bind, Option.bind_eq_some_iff]

/-! ## Running a document -/

variable {σ : Type} {fixture : Fixture σ} {state state' : σ} {outcomes : List Outcome}
  {reached : Document}

/-- A document can be run exactly if there is room for the counts of its verdicts. -/
theorem run_isSome_iff (h : empty.Grows document) : (document.run fixture state).isSome ↔
    ∀ verdict,
      (fixture.verdicts state (questionsOf document.checks)).count (some verdict) < UInt32.size := by
  refine ⟨fun hsome verdict => ?_, run_isSome h fixture state⟩
  obtain ⟨⟨outcomes, state', reached⟩, hrun⟩ := Option.isSome_iff_exists.mp hsome
  obtain ⟨hresults, hcounts⟩ := counts_of_run h hrun
  rw [← hresults, ← hcounts]
  exact Tally.countOf_lt _ _

/-- **A run of a document comes to what the results settle, sheet by sheet.** -/
theorem Adds.run (h : empty.Adds sheets document) (hgrows : empty.Grows document)
    (hrun : document.run fixture state = some (outcomes, state', reached)) :
    outcomes.map (·.verdict)
        = Sheet.settled sheets (fixture.verdicts state (questionsOf document.checks))
      ∧ outcomes.map (·.instructionId) = idsOf document.checks
      ∧ state' = fixture.after state ((questionsOf document.checks).map Prod.fst)
      ∧ reached.tables
        = Sheet.allShown sheets (fixture.verdicts state (questionsOf document.checks)) := by
  obtain ⟨⟨_, _, board⟩, hchecks, heq⟩ := Option.map_eq_some_iff.mp hrun
  cases heq
  have hids := runChecks_ids hchecks
  obtain ⟨-, hstate⟩ := results_of_run hgrows.proper hgrows.bounded hchecks
  have hsame : document.checks = Sheet.checks 0 0 sheets := h.checks
  have hboard : document.board.tables = [] ++ (sheets.map Sheet.table ++ []) :=
    h.tables.trans (List.append_nil _).symm
  rw [hsame] at hchecks
  have haccounts : document.accounts = Sheet.callCount sheets := h.accounts.trans (Nat.zero_add _)
  obtain ⟨hverdicts, htables⟩ := Sheet.run_checks hgrows.bounded
    (fun number _ hlt => hgrows.fresh (by omega)) rfl hboard hchecks
  refine ⟨hsame ▸ hverdicts, hids, hstate, ?_⟩
  rw [hsame]
  exact htables.trans (List.append_nil _)

end Document

end ScenarioTables
