import ScenarioTables.Proofs.Reading
import ScenarioTables.Proofs.Registrations

/-!
# Descending calls

Whether calls in a script nest for ever cannot be seen from the rows as they are written: which
scenario a row calls is only known when the arguments have been put in. Suppose the scenarios can be
ranked so that, whatever the arguments, a row in the body of a scenario only ever calls a scenario
of lower rank (`Registry.Descends`). Then every script is read to its end, and no table that the
reading attaches lies more levels below the script than the highest rank and one more
(`Script.assertions_settle`).

Reading is followed to a limit of depth, so that it ends means that from some limit on the limit
makes no difference. The bodies of calls are read by what the factory makes for them, which is again
a script or a refusal (`Setting.ReadsScripts`); nothing is said about interpreters of other kinds.
-/

set_option autoImplicit false

namespace ScenarioTables

/-! ## Ranks of scenarios -/

/-- **A ranking under which calls descend**: whatever arguments a scenario is called with, the rows
of its body call scenarios of lower rank. -/
def Registry.Descends (registry : Registry) (rank : Scenario → Nat) : Prop :=
  ∀ name caller, registry.find? name = some caller →
    ∀ (values : List String) (rows : List (List String)),
    caller.expand (caller.bindPositional values) = .ok rows →
      ∀ cells ∈ rows.tail, ∀ (called : Scenario) (arguments : List String),
        Script.Row.ofCells registry cells = .call called arguments → rank called < rank caller

/-- The number of levels that calls can nest to: one more than the highest rank. -/
def Registry.levels (registry : Registry) (rank : Scenario → Nat) : Nat :=
  registry.scenarios.toList.foldr (fun entry highest => max (rank entry.2 + 1) highest) 0

/-- Every registered scenario has a rank below the number of levels. -/
theorem Registry.rank_lt_levels {registry : Registry} {name : String} {scenario : Scenario}
    (hfind : registry.find? name = some scenario) (rank : Scenario → Nat) :
    rank scenario < registry.levels rank := by
  have h : (name, scenario) ∈ registry.scenarios.toList :=
    Std.TreeMap.mem_toList_iff_getElem?_eq_some.mpr hfind
  unfold levels
  generalize registry.scenarios.toList = entries at h
  induction entries with
  | nil => cases h
  | cons other rest ih =>
    rw [List.foldr_cons]
    rcases List.mem_cons.mp h with rfl | hrest
    · exact Nat.lt_of_lt_of_le (Nat.lt_succ_self _) (Nat.le_max_left _ _)
    · exact Nat.lt_of_lt_of_le (ih hrest) (Nat.le_max_right _ _)

/-- What a row of cells resolves to is a registered scenario. -/
theorem Registry.find?_of_resolve? {registry : Registry} {cells : List String}
    {scenario : Scenario} {arguments : List String}
    (h : registry.resolve? cells = some (scenario, arguments)) :
    ∃ name, registry.find? name = some scenario := by
  unfold resolve? at h
  split at h
  next found hfound =>
    cases h
    exact ⟨_, hfound⟩
  next =>
    obtain ⟨found, hfound, hcaptures⟩ := List.exists_of_findSome?_eq_some h
    obtain ⟨values, -, heq⟩ := Option.map_eq_some_iff.mp hcaptures
    cases heq
    obtain ⟨name, -, hname⟩ := List.mem_filterMap.mp hfound
    exact ⟨name, hname⟩

/-- A row that is a call resolves to the scenario that it calls. -/
theorem Script.Row.resolve?_of_call {registry : Registry} {cells : List String}
    {scenario : Scenario} {arguments : List String}
    (h : Row.ofCells registry cells = .call scenario arguments) :
    registry.resolve? cells = some (scenario, arguments) := by
  unfold Row.ofCells Row.ofPlainCells at h
  dsimp only at h
  repeat' split at h
  all_goals cases h <;> assumption

/-! ## What reads the bodies -/

namespace Setting

/-- **Over these kinds the factory reads scripts**: what is made for the body of a call in a script
of one of the kinds, if anything, reads the body as a script of one of the kinds, and nothing is
attached yet to the table that it answers for. -/
def ReadsScripts (setting : Setting) (kinds : String → Prop) : Prop :=
  ∀ caller, kinds caller → ∀ (assignment : Assignment) (interpreter : Interpreter),
    assignment.kind = setting.factory.childKind setting.defaultKind caller →
      setting.factory.make assignment = .ok interpreter →
        interpreter.table.children = [] ∧ ∃ kind, kinds kind
          ∧ interpreter.assertions = (Script.interpreter { assignment with kind }).assertions

/-- A fault with which the factory refuses the body of a call in a script of one of the kinds. -/
def Refuses (setting : Setting) (kinds : String → Prop) (fault : Fault) : Prop :=
  ∃ caller, kinds caller ∧ ∃ assignment : Assignment,
    assignment.kind = setting.factory.childKind setting.defaultKind caller
      ∧ setting.factory.make assignment = .error fault

variable {setting : Setting}

/-- A factory that makes scripts makes one for the body of every call in a script. -/
private theorem make_script (h : setting.factory.find? Script.kindName = some Script.constructor)
    {assignment : Assignment} (hkind : assignment.kind
      = setting.factory.childKind setting.defaultKind Script.kindName) :
    assignment.kind = Script.kindName
      ∧ setting.factory.make assignment = .ok (Script.interpreter assignment) := by
  have hsupports : setting.factory.supports Script.kindName = true :=
    decide_eq_true (Dictionary.mem_keys_of_find? h)
  rw [Factory.childKind, if_pos hsupports] at hkind
  refine ⟨hkind, ?_⟩
  rw [Factory.make, hkind, h]
  rfl

/-- Over a factory that makes scripts, whatever else it makes, the bodies of calls in scripts are
read as scripts. -/
theorem readsScripts_of_constructor
    (h : setting.factory.find? Script.kindName = some Script.constructor) :
    setting.ReadsScripts (· = Script.kindName) := by
  rintro _ rfl assignment interpreter hkind hmade
  obtain ⟨hscript, hmake⟩ := make_script h hkind
  cases hmake.symm.trans hmade
  exact ⟨rfl, assignment.kind, hscript, rfl⟩

/-- Such a factory refuses no body. -/
theorem not_refuses_of_constructor
    (h : setting.factory.find? Script.kindName = some Script.constructor) (fault : Fault) :
    ¬ setting.Refuses (· = Script.kindName) fault := by
  rintro ⟨_, rfl, assignment, hkind, hrefused⟩
  cases (make_script h hkind).2.symm.trans hrefused

end Setting

/-! ## Levels of attached tables -/

/-- The attached tables, and those attached to them, lie on fewer levels than the limit. -/
def Reach (limit : Nat) (attached : List (Nat × Table)) : Prop :=
  ∀ child ∈ attached, ∀ path table, child.2.descendant? path = some table → path.length < limit

namespace Reach

variable {limit inner : Nat} {attached more : List (Nat × Table)}

theorem nil : Reach limit [] := nofun

/-- Tables attached one after another lie no deeper than each of them. -/
theorem append (h : Reach limit attached) (hmore : Reach limit more) :
    Reach limit (attached ++ more) := by
  intro child hchild
  rcases List.mem_append.mp hchild with hfirst | hlater
  · exact h child hfirst
  · exact hmore child hlater

/-- A table is one level above what is attached to it. -/
theorem length_le {outer table : Table} (h : Reach limit outer.children) {path : List Nat}
    (hpath : outer.descendant? path = some table) : path.length ≤ limit := by
  cases path with
  | nil => exact Nat.zero_le _
  | cons position path =>
    obtain ⟨child, hchild, hinner⟩ := Option.bind_eq_some_iff.mp hpath
    exact h child (List.mem_of_getElem? hchild) path table hinner

/-- The table of a call is one level below the row that calls. -/
theorem body {child : Table} (h : Reach inner child.children) (hlimit : inner < limit)
    (row : Nat) : Reach limit [(row, child)] := by
  intro attached hattached path table hpath
  cases List.mem_singleton.mp hattached
  exact Nat.lt_of_le_of_lt (length_le h hpath) hlimit

end Reach

/-! ## Building that settles -/

/-- **Building that settles**: from a limit on, the depth makes no difference. What comes of it is a
value or a refusal of the factory, and below one table are attached some tables that lie no deeper
than the limit. -/
def Settles (setting : Setting) (kinds : String → Prop) (limit : Nat) (address : Address)
    {α : Type} (build : Nat → Build α) (board : Board) : Prop :=
  ∃ answer attached accounts,
    (∀ depth, limit ≤ depth → build depth board = (answer, board.grown address attached accounts))
      ∧ (∀ stop, answer = .error stop →
          ∃ fault, stop = .fault fault ∧ setting.Refuses kinds fault)
      ∧ Reach limit attached

namespace Settles

variable {setting : Setting} {kinds : String → Prop} {rank : Scenario → Nat} {limit inner : Nat}
  {address : Address} {board : Board} {α β : Type}

/-- Building that is the same at every depth settles alike. -/
theorem congr {build other : Nat → Build α} (heq : ∀ depth, build depth = other depth)
    (h : Settles setting kinds limit address other board) :
    Settles setting kinds limit address build board := by
  rw [funext heq]
  exact h

/-- Where nothing is built the depth makes no difference. -/
theorem pure (value : α) :
    Settles setting kinds limit address (fun _ => (return value : Build α)) board := by
  refine ⟨.ok value, [], 0, fun _ _ => ?_, nofun, Reach.nil⟩
  rw [Board.grown_nothing]
  rfl

/-- Two steps settle if the first does and, on whatever the first has left, the second. -/
theorem bind {first : Nat → Build α} {next : α → Nat → Build β}
    (hfirst : Settles setting kinds limit address first board)
    (hnext : ∀ value attached accounts,
      Settles setting kinds limit address (next value) (board.grown address attached accounts)) :
    Settles setting kinds limit address (fun depth => first depth >>= (next · depth)) board := by
  obtain ⟨answer, attached, accounts, hread, hstop, hreach⟩ := hfirst
  cases answer with
  | error stop =>
    refine ⟨.error stop, attached, accounts, fun depth hdepth => ?_, fun other hother => ?_, hreach⟩
    · exact Build.bind_error (hread depth hdepth)
    · cases hother
      exact hstop stop rfl
  | ok value =>
    obtain ⟨answer, more, later, hmore, hanswer, hfar⟩ := hnext value attached accounts
    refine ⟨answer, attached ++ more, accounts + later, fun depth hdepth => ?_, hanswer,
      hreach.append hfar⟩
    refine (Build.bind_ok (hread depth hdepth)).trans ((hmore depth hdepth).trans ?_)
    rw [Board.grown_grown]

section Call

variable {scenario : Scenario} {binding : Binding} {site : CallSite} {rows : List (List String)}
  {table : Table}

/-- A call whose body is refused settles at once. -/
theorem call_refused (hkind : kinds site.kind) (hexpand : scenario.expand binding = .ok rows)
    {fault : Fault}
    (hmake : setting.factory.make (scenario.bodyAssignment setting site rows board) = .error fault)
    (hlimit : 0 < limit) :
    Settles setting kinds limit site.table (fun depth => scenario.call setting depth binding site)
      board := by
  refine ⟨.error (.fault fault), [], 1, fun depth hdepth => ?_, fun stop hstop => ?_, Reach.nil⟩
  · obtain ⟨lower, rfl⟩ : ∃ lower, depth = lower + 1 := ⟨depth - 1, by omega⟩
    rw [Board.grown_account board site.table site.scope]
    exact Scenario.call_of_make_error hexpand hmake lower
  · cases hstop
    exact ⟨fault, rfl, site.kind, hkind, _, rfl, hmake⟩

/-- A call settles if its body does on the opened board, at a lower limit, and nothing was attached
before to the table of its interpreter. -/
theorem call_made (htable : board.table? site.table = some table)
    (hexpand : scenario.expand binding = .ok rows) {interpreter : Interpreter}
    (hmake : setting.factory.make (scenario.bodyAssignment setting site rows board)
      = .ok interpreter)
    (hempty : interpreter.table.children = []) (hlimit : inner < limit)
    (hbody : Settles setting kinds inner (site.table.child table.children.length)
      (fun depth => interpreter.assertions ⟨setting.scenarios, Scenario.call setting depth⟩)
      (board.opened site interpreter.table)) :
    Settles setting kinds limit site.table (fun depth => scenario.call setting depth binding site)
      board := by
  obtain ⟨answer, attached, accounts, hread, hstop, hreach⟩ := hbody
  have hchild : Reach inner (interpreter.table.children ++ attached) := by
    rw [hempty]
    exact hreach
  refine ⟨answer.map (· ++ [scenario.rollUp site (board.ledger.nest site.scope).1
    interpreter.parent]), [(site.row, { interpreter.table with
      children := interpreter.table.children ++ attached })], 1 + accounts,
    fun depth hdepth => ?_, fun stop herror => ?_, .body hchild hlimit site.row⟩
  · obtain ⟨lower, rfl⟩ : ∃ lower, depth = lower + 1 := ⟨depth - 1, by omega⟩
    have hbelow := hread lower (by omega)
    rw [Board.opened_grown htable] at hbelow
    refine (Scenario.call_of_made hexpand hmake lower).trans ?_
    cases answer with
    | error stop => exact Build.bind_error hbelow
    | ok checks => exact Build.bind_ok hbelow
  · cases answer with
    | ok checks => cases herror
    | error other =>
      cases herror
      exact hstop stop rfl

/-- A call settles if every script with its rows does, at a lower limit. -/
theorem call (hscripts : setting.ReadsScripts kinds) (hkind : kinds site.kind)
    (htable : board.table? site.table = some table) (hexpand : scenario.expand binding = .ok rows)
    (hlimit : inner < limit)
    (hbody : ∀ (assignment : Assignment) (board : Board), kinds assignment.kind →
      assignment.rows = rows → (∃ table, board.table? assignment.table = some table) →
        Settles setting kinds inner assignment.table
          (fun depth => (Script.interpreter assignment).assertions
            ⟨setting.scenarios, Scenario.call setting depth⟩) board) :
    Settles setting kinds limit site.table (fun depth => scenario.call setting depth binding site)
      board := by
  cases hmake : setting.factory.make (scenario.bodyAssignment setting site rows board) with
  | error fault => exact call_refused hkind hexpand hmake (Nat.zero_lt_of_lt hlimit)
  | ok interpreter =>
    obtain ⟨hempty, kind, hkind, hassertions⟩ := hscripts site.kind hkind _ _ rfl hmake
    have hchild : board.nextChild site.table = site.table.child table.children.length :=
      Board.nextChild_eq htable
    have hthere := Board.table?_opened_child htable interpreter.table
    refine call_made htable hexpand hmake hempty hlimit ?_
    rw [← hchild] at hthere
    rw [hassertions, ← hchild]
    exact hbody { scenario.bodyAssignment setting site rows board with kind } _ hkind rfl
      ⟨interpreter.table, hthere⟩

end Call

/-- Rows settle if they call scenarios below the limit only and the calls in bodies descend. -/
theorem rows (hscripts : setting.ReadsScripts kinds)
    (hdescends : setting.scenarios.Descends rank) (limit : Nat) (rows : List (List String))
    (hcalls : ∀ cells ∈ rows, ∀ called arguments,
      Script.Row.ofCells setting.scenarios cells = .call called arguments → rank called < limit)
    {assignment : Assignment} (hkind : kinds assignment.kind) (row number : Nat) (board : Board)
    (htable : ∃ table, board.table? assignment.table = some table) :
    Settles setting kinds limit assignment.table (fun depth =>
      Script.assertionsFrom assignment ⟨setting.scenarios, Scenario.call setting depth⟩ row number
        rows) board := by
  -- The limit outside, for the bodies of calls; the rows inside.
  induction limit using Nat.strongRecOn generalizing rows assignment row number board with
  | ind limit ihlimit =>
    induction rows generalizing row number board with
    | nil => exact .pure []
    | cons cells rest ihrest =>
      have hrest := ihrest fun later hlater => hcalls later (List.mem_cons_of_mem _ hlater)
      have hgrown (attached : List (Nat × Table)) (accounts : Nat) :
          ∃ table, (board.grown assignment.table attached accounts).table? assignment.table
            = some table := by
        obtain ⟨table, htable⟩ := htable
        rw [Board.table?_grown, htable]
        exact ⟨_, rfl⟩
      cases hcells : Script.Row.ofCells setting.scenarios cells with
      | note =>
        refine .congr (fun depth => Script.assertionsFrom_note hcells row number) ?_
        exact hrest (row + 1) number board htable
      | action judge parts =>
        refine .congr (fun depth => Script.assertionsFrom_action hcells row number) ?_
        exact .bind (hrest (row + 1) (number + 1) board htable) fun checks _ _ => .pure _
      | call called arguments =>
        refine .congr (fun depth => Script.assertionsFrom_call hcells row number) ?_
        have hlower := hcalls cells List.mem_cons_self called arguments hcells
        obtain ⟨name, hcalled⟩ := Registry.find?_of_resolve? (Script.Row.resolve?_of_call hcells)
        obtain ⟨body, hexpand⟩ := called.expand_bindPositional arguments
        obtain ⟨table, htable⟩ := htable
        refine .bind (.call hscripts hkind htable hexpand hlower ?_) fun block attached accounts =>
          .bind (hrest (row + 1) number _ (hgrown attached accounts)) fun checks _ _ => .pure _
        intro inside opened hinside hrows hthere
        refine ihlimit (rank called) hlower inside.rows.tail ?_ hinside 1 0 opened hthere
        rw [hrows]
        exact hdescends name called hcalled arguments body hexpand

end Settles

/-- **Descending calls come to an end.** Let the calls in the bodies of the scenarios descend, and
let the factory have the bodies of calls in scripts read as scripts. Then the assertions of any
script on the board are built the same, and leave the same board, at every depth from one more than
the highest rank on. Either there are assertions or the factory has refused a body; the limit of
depth never is the reason to stop. Below the script's table stands what was attached to it before,
and behind that tables that lie, with all that is attached to them, at most as many levels deep. -/
theorem Script.assertions_settle {setting : Setting} {kinds : String → Prop}
    {rank : Scenario → Nat} (hscripts : setting.ReadsScripts kinds)
    (hdescends : setting.scenarios.Descends rank) {assignment : Assignment}
    (hkind : kinds assignment.kind) {board : Board} {table : Table}
    (htable : board.table? assignment.table = some table) :
    ∃ answer after attached,
      (∀ depth, setting.scenarios.levels rank ≤ depth →
          (Script.interpreter assignment).assertions
              ⟨setting.scenarios, Scenario.call setting depth⟩ board = (answer, after))
        ∧ (∀ stop, answer = .error stop →
            ∃ fault, stop = .fault fault ∧ setting.Refuses kinds fault)
        ∧ after.table? assignment.table
          = some { table with children := table.children ++ attached }
        ∧ ∀ path below, Table.descendant? { table with children := attached } path = some below →
            path.length ≤ setting.scenarios.levels rank := by
  have hcalls : ∀ cells ∈ assignment.rows.tail, ∀ called arguments,
      Script.Row.ofCells setting.scenarios cells = .call called arguments →
        rank called < setting.scenarios.levels rank := by
    intro cells _ called arguments hcells
    obtain ⟨name, hcalled⟩ := Registry.find?_of_resolve? (Script.Row.resolve?_of_call hcells)
    exact Registry.rank_lt_levels hcalled rank
  obtain ⟨answer, attached, accounts, hread, hstop, hreach⟩ :=
    Settles.rows hscripts hdescends _ _ hcalls hkind 1 0 board ⟨table, htable⟩
  refine ⟨answer, _, attached, hread, hstop, ?_, fun path below => hreach.length_le⟩
  rw [Board.table?_grown, htable]
  rfl

/-! ## Three scenarios in a row -/

/-- A scenario that calls a scenario that calls a scenario without rows. -/
def visits : List Scenario :=
  [⟨"table_0", [["scenario", "say", "what"]], Header.ofAlternating ["say", "what"]⟩,
    ⟨"table_1", [["scenario", "greet", "who"], ["say", "@who"]],
      Header.ofAlternating ["greet", "who"]⟩,
    ⟨"table_2", [["scenario", "visit", "host"], ["greet", "@host"], ["say", "goodbye"]],
      Header.ofAlternating ["visit", "host"]⟩]

/-- The scenarios under their names. -/
def visitsRegistry : Registry :=
  .ofList (visits.map fun scenario => (scenario.name, scenario))

/-- The place of a scenario among the three. -/
def visitsRank (scenario : Scenario) : Nat :=
  if scenario.tableId = "table_0" then 0 else if scenario.tableId = "table_1" then 1 else 2

/-- A row of two cells whose first one has no marks and spells the name of a scenario calls no
other, whatever is put in. -/
private theorem called_of_first {registry : Registry} {scenario called : Scenario}
    {pairs : List (String × String)} {first second : String} {arguments : List String}
    (hmark : '@' ∉ first.toList)
    (hfind : registry.find? (Identifier.className (Text.trimmed first)) = some scenario)
    (hcall : Script.Row.ofCells registry ([first, second].map (Expansion.substitute pairs))
      = .call called arguments) : called = scenario := by
  have hresolved := Script.Row.resolve?_of_call hcall
  have hname : Cells.spelledName ([first, second].map (Expansion.substitute pairs))
      = Text.trimmed (Expansion.substitute pairs first) := rfl
  rw [Registry.resolve?, hname, Expansion.substitute_of_not_mem hmark, hfind] at hresolved
  cases hresolved
  rfl

/-- The calls of the three descend, whoever is greeted and whatever is said. -/
theorem visits_descend : visitsRegistry.Descends visitsRank := by
  have hsay : visitsRegistry.find? (Identifier.className (Text.trimmed "say")) = visits[0]? := by
    rw [show Identifier.className (Text.trimmed "say") = "Say" by decide +kernel]
    rfl
  have hgreet : visitsRegistry.find? (Identifier.className (Text.trimmed "greet"))
      = visits[1]? := by
    rw [show Identifier.className (Text.trimmed "greet") = "Greet" by decide +kernel]
    rfl
  intro name caller hcaller values rows hexpand cells hcells called arguments hcall
  have hrows : caller.expand (caller.bindPositional values) = _ :=
    Expansion.expand_of_inputs (fun _ => Binding.mem_inputs_of_positional) caller.rows
  cases hrows.symm.trans hexpand
  rw [← List.map_tail] at hcells
  obtain ⟨written, hwritten, rfl⟩ := List.mem_map.mp hcells
  rw [visitsRegistry, (Registry.represents_ofList _).find?] at hcaller
  obtain ⟨visit, hvisit, heq⟩ := List.mem_map.mp (Dictionary.mem_of_find?_ofList hcaller)
  cases heq
  simp only [visits, List.mem_cons, List.not_mem_nil, or_false] at hvisit
  rcases hvisit with rfl | rfl | rfl
  · cases hwritten
  · cases List.mem_singleton.mp hwritten
    cases called_of_first (by decide) hsay hcall
    decide
  · rcases List.mem_cons.mp hwritten with rfl | hlast
    · cases called_of_first (by decide) hgreet hcall
      decide
    · cases List.mem_singleton.mp hlast
      cases called_of_first (by decide) hsay hcall
      decide

/-- A script that calls the outermost of the three. -/
def visiting : Assignment :=
  ⟨Script.kindName, ⟨0, []⟩, [["script"], ["visit", "Ann"]], "table_3", none, []⟩

/-- The script is read to its end at depth three and beyond; its tables lie three levels deep at
most, and one of them does. -/
theorem Script.assertions_settle_visits :
    visitsRegistry.levels visitsRank = 3
      ∧ ∃ checks after attached,
        (∀ depth, 3 ≤ depth → (Script.interpreter visiting).assertions
            ⟨visitsRegistry, Scenario.call (scriptSetting "script" visitsRegistry) depth⟩
            (Board.empty.place (Table.ofRows visiting.rows)) = (.ok checks, after))
          ∧ after.table? ⟨0, []⟩ = some ⟨visiting.rows, .empty, attached⟩
          ∧ (∀ path below, Table.descendant? ⟨visiting.rows, .empty, attached⟩ path = some below →
              path.length ≤ 3)
          ∧ (after.table? ⟨0, [0, 0, 0]⟩).isSome := by
  have hlevels : visitsRegistry.levels visitsRank = 3 := by decide
  have hfactory : (scriptSetting "script" visitsRegistry).factory.find? Script.kindName
      = some Script.constructor := rfl
  have hkind : (fun kind => kind = Script.kindName) visiting.kind := rfl
  have hplaced : (Board.empty.place (Table.ofRows visiting.rows)).table? visiting.table
      = some (Table.ofRows visiting.rows) := rfl
  obtain ⟨answer, after, attached, hread, hstop, htable, hlow⟩ := Script.assertions_settle
    (Setting.readsScripts_of_constructor hfactory) visits_descend hkind hplaced
  have hthree := hread 3 (Nat.le_of_eq hlevels)
  cases answer with
  | error stop =>
    obtain ⟨fault, -, hrefused⟩ := hstop stop rfl
    exact absurd hrefused (Setting.not_refuses_of_constructor hfactory fault)
  | ok checks =>
    refine ⟨hlevels, checks, after, attached, fun depth hdepth => ?_, htable, hlow, ?_⟩
    · exact hread depth (hlevels.symm ▸ hdepth)
    · have hafter : _ = after := congrArg Prod.snd hthree
      rw [← hafter]
      decide +kernel

end ScenarioTables
