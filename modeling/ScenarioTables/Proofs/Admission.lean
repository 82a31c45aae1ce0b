import ScenarioTables.Proofs.Calls
import ScenarioTables.Proofs.Sheets

/-!
# Which tables are refused

Over the factory of scripts a table is refused for its first row alone: a scenario table without a
name, or a table of no known type. Reading a script cannot fail (`Document.addTable_error_iff`). A
call that a script makes binds its arguments by position and so only names that the scenario
declares, and its body is a script again, whatever kind of table is the default. So no call is
refused, at any depth; what remains is the limit of depth, for scenarios that call themselves
without end.
-/

set_option autoImplicit false

namespace ScenarioTables.Document

variable {defaultKind : String} {depth : Nat} {document : Document} {rows : List (List String)}

/-- A script whose calls do not nest too deeply is taken, and has an outline. -/
theorem addTable_of_ends (hkind : kindOf rows = Script.kindName)
    (hends : document.addTable Script.factory defaultKind depth rows ≠ .error .tooDeep) :
    ∃ outline, Expands document.context.scenarios rows.tail outline ∧ outline.depth ≤ depth
      ∧ document.addTable Script.factory defaultKind depth rows
        = .ok (document.scripted rows outline) := by
  have hoffer : (document.offer defaultKind depth rows).isSome := by
    unfold offer
    split
    next => rfl
    next => rfl
    next htooDeep => exact absurd htooDeep hends
  obtain ⟨next, hnext⟩ := Option.isSome_iff_exists.mp hoffer
  obtain ⟨outline, houtline, hdepth, rfl⟩ := outline_of_offer hkind hnext
  refine ⟨outline, houtline, hdepth, addTable_of_offer hnext fun heq => ?_⟩
  have hlength := congrArg (·.tables.length) heq
  rw [length_scripted] at hlength
  exact absurd hlength (Nat.succ_ne_self _)

/-- A scenario table is refused exactly if no cell stands behind its first. -/
theorem addTable_scenario_error_iff (hkind : kindOf rows = scenarioKind) (stop : Stop) :
    document.addTable Script.factory defaultKind depth rows = .error stop ↔
      (Table.ofRows rows).columnCount 0 < 2 ∧ stop = .fault .unnamedScenario := by
  rw [addTable_scenario hkind]
  rcases ofRows?_cases document.nextTableId rows with ⟨htwo, scenario, hscenario⟩ | ⟨hless, hrefused⟩
  · rw [hscenario]
    constructor
    · intro herror
      cases herror
    · rintro ⟨hless, -⟩
      omega
  · rw [hrefused]
    constructor
    · intro herror
      cases herror
      exact ⟨hless, rfl⟩
    · rintro ⟨-, rfl⟩
      rfl

/-- A script whose calls do not nest too deeply is not refused. -/
theorem addTable_script_ne_error (hkind : kindOf rows = Script.kindName)
    (hends : document.addTable Script.factory defaultKind depth rows ≠ .error .tooDeep)
    (stop : Stop) : document.addTable Script.factory defaultKind depth rows ≠ .error stop := by
  obtain ⟨outline, -, -, htaken⟩ := addTable_of_ends hkind hends
  intro herror
  cases htaken.symm.trans herror

/-- A table of any other type is refused for its type. -/
theorem addTable_other_error_iff (hscenario : kindOf rows ≠ scenarioKind)
    (hscript : kindOf rows ≠ Script.kindName) (stop : Stop) :
    document.addTable Script.factory defaultKind depth rows = .error stop ↔
      stop = .fault (.unknownTableType (kindOf rows) document.nextTableId) := by
  rw [addTable_other hscript hscenario, Except.error.injEq]
  exact eq_comm

/-- **Scripts cannot be refused.** Unless calls nest too deeply, a document takes a table exactly if
its first cell says `scenario` and another cell stands behind it, or says `script`; otherwise the
fault is one of wording in the first case and one of the table in the second. Every call that is
made while a script is read, at any depth, is answered with assertions. The kind of table that is
the default has no part in it. -/
theorem addTable_error_iff
    (hends : document.addTable Script.factory defaultKind depth rows ≠ .error .tooDeep) :
    (∀ stop, document.addTable Script.factory defaultKind depth rows = .error stop ↔
        ∃ fault, stop = .fault fault
          ∧ ((kindOf rows = scenarioKind ∧ (Table.ofRows rows).columnCount 0 < 2
              ∧ fault = .unnamedScenario ∧ fault.category = .wording)
            ∨ (kindOf rows ≠ scenarioKind ∧ kindOf rows ≠ Script.kindName
              ∧ fault = .unknownTableType (kindOf rows) document.nextTableId
              ∧ fault.category = .table)))
      ∧ (kindOf rows = Script.kindName → ∀ call,
        Script.Makes (scriptSetting defaultKind document.context.scenarios) depth
          (document.assignment Script.kindName rows) 1 rows.tail
          (document.board.place (Table.ofRows rows)) call →
        ∃ checks, call.answer = .ok checks) := by
  refine ⟨fun stop => ?_, fun hkind call hmakes => ?_⟩
  · by_cases hscenario : kindOf rows = scenarioKind
    · rw [addTable_scenario_error_iff hscenario]
      constructor
      · rintro ⟨hless, rfl⟩
        exact ⟨_, rfl, .inl ⟨hscenario, hless, rfl, rfl⟩⟩
      · rintro ⟨fault, rfl, ⟨-, hless, rfl, -⟩ | ⟨hother, -⟩⟩
        · exact ⟨hless, rfl⟩
        · exact absurd hscenario hother
    · by_cases hscript : kindOf rows = Script.kindName
      · constructor
        · exact fun herror => absurd herror (addTable_script_ne_error hscript hends stop)
        · rintro ⟨fault, -, ⟨hkind, -⟩ | ⟨-, hother, -⟩⟩
          · exact absurd hkind hscenario
          · exact absurd hscript hother
      · rw [addTable_other_error_iff hscenario hscript]
        constructor
        · rintro rfl
          exact ⟨_, rfl, .inr ⟨hscenario, hscript, rfl, rfl⟩⟩
        · rintro ⟨fault, rfl, ⟨hkind, -⟩ | ⟨-, -, rfl, -⟩⟩
          · exact absurd hkind hscenario
          · rfl
  · obtain ⟨outline, houtline, hdepth, -⟩ := addTable_of_ends hkind hends
    obtain ⟨number, before, body, rollUp, behind, -, -, hblock⟩ :=
      hmakes.block (document.place rows) rfl rfl (document.place_sound rows)
        (document.place_standsOn rows) houtline hdepth
    exact ⟨_, hblock.answer⟩

/-- With a default kind that there is no interpreter for, a script that calls a scenario which calls
another one is taken, and the inner call is answered with its two assertions. A scenario table
without a name is refused. -/
theorem addTable_error_iff_visiting :
    ∃ document call, document = (empty.declared nestedCalls[0]).declared nestedCalls[1]
      ∧ (∀ stop, document.addTable Script.factory "none" 2 nestedCalls[2] ≠ .error stop)
      ∧ Script.Makes (scriptSetting "none" document.context.scenarios) 2
        (document.assignment Script.kindName nestedCalls[2]) 1 nestedCalls[2].tail
        (document.board.place (Table.ofRows nestedCalls[2])) call
      ∧ call.depth = 1 ∧ (∃ checks, call.answer = .ok checks)
      ∧ document.addTable Script.factory "none" 2 [["scenario"], ["wave"]]
        = .error (.fault .unnamedScenario) := by
  let document := (empty.declared nestedCalls[0]).declared nestedCalls[1]
  have hends : document.addTable Script.factory "none" 2 nestedCalls[2] ≠ .error .tooDeep := by
    intro htooDeep
    have htaken : (document.addTable Script.factory "none" 2 nestedCalls[2]).toOption.isSome
        = true := by decide +kernel
    rw [htooDeep] at htaken
    cases htaken
  have hrefused : document.addTable Script.factory "none" 2 [["scenario"], ["wave"]]
      ≠ .error .tooDeep := by
    rw [addTable_scenario (by decide +kernel)]
    intro htooDeep
    cases htooDeep
  obtain ⟨visit, host, hvisit, hvisited⟩ := Script.Row.call_of_expansion?
    (show (Script.Row.ofCells document.context.scenarios ["visit", "Ann"]).expansion?
      = some [["scenario", "visit _", "host"], ["greet", "Ann"], ["open door"], ["ensure", "leave"]]
      by decide +kernel)
  obtain ⟨greet, who, hgreet, -⟩ := Script.Row.call_of_expansion?
    (show (Script.Row.ofCells document.context.scenarios ["greet", "Ann"]).expansion?
      = some [["scenario", "greet _", "who"], ["say", "hello Ann"]] by decide +kernel)
  have hcall : ∃ call, Script.Makes (scriptSetting "none" document.context.scenarios) 2
      (document.assignment Script.kindName nestedCalls[2]) 1 nestedCalls[2].tail
      (document.board.place (Table.ofRows nestedCalls[2])) call ∧ call.depth = 1 :=
    ⟨_, .inside hvisit hvisited (.here hgreet), rfl⟩
  obtain ⟨call, hmakes, hdepth⟩ := hcall
  have hkind : kindOf nestedCalls[2] = Script.kindName := by decide +kernel
  refine ⟨document, call, rfl, fun stop herror => ?_, hmakes, hdepth,
    (addTable_error_iff hends).2 hkind call hmakes,
    ((addTable_error_iff hrefused).1 _).mpr
      ⟨_, rfl, .inl ⟨by decide +kernel, by decide +kernel, rfl, rfl⟩⟩⟩
  obtain ⟨fault, -, ⟨hscenario, -⟩ | ⟨-, hscript, -⟩⟩ :=
    ((addTable_error_iff hends).1 stop).mp herror
  · exact absurd (hkind.symm.trans hscenario) (by decide)
  · exact hscript hkind

end ScenarioTables.Document
