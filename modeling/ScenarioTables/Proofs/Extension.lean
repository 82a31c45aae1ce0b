import ScenarioTables.Proofs.Sheets

/-!
# Later tables leave earlier ones alone

A document that takes more tables has its earlier sheets in front of the new ones. So when it is run,
the fixture side is first asked what the shorter document would have asked it, and the outcomes and
the tables of the earlier sheets are those of the shorter document (`Document.run_extended`). The
later tables can be anything that a document is offered: they can declare the scenarios again that
the earlier ones call, call those that the earlier ones declare, or be refused.
-/

set_option autoImplicit false

namespace ScenarioTables

/-- Outcomes are known by their ids and their verdicts. -/
theorem Outcome.eq_of_map {first second : List Outcome}
    (hids : first.map (·.instructionId) = second.map (·.instructionId))
    (hverdicts : first.map (·.verdict) = second.map (·.verdict)) : first = second := by
  have hzip (outcomes : List Outcome) : List.zipWith Outcome.mk
      (outcomes.map (·.instructionId)) (outcomes.map (·.verdict)) = outcomes := by
    rw [List.zipWith_map, List.zipWith_self, List.map_id']
  rw [← hzip first, hids, hverdicts, hzip second]

namespace Document

variable {defaultKind : String} {depth : Nat} {document extended : Document} {σ : Type}
  {fixture : Fixture σ} {state state' : σ} {outcomes : List Outcome} {reached : Document}

/-- A document that grew can be run only if it could be run before. -/
theorem run_of_extended (h : empty.Grows document) (hmore : document.Grows extended)
    (hrun : extended.run fixture state = some (outcomes, state', reached)) :
    (document.run fixture state).isSome := by
  obtain ⟨made, hmade, -⟩ := hmore.checks
  refine run_isSome h fixture state fun verdict => ?_
  have hcount := (run_isSome_iff (h.trans hmore)).mp (Option.isSome_of_eq_some hrun) verdict
  rw [hmade, questionsOf_append, Fixture.verdicts_append, List.count_append] at hcount
  omega

/-- What a run of a document shows is where a run of the document with more sheets begins. -/
theorem Adds.run_prefix {sheets more : List Sheet} (h : empty.Adds sheets document)
    (hmore : document.Adds more extended) (hgrows : empty.Grows document)
    (hgrows' : empty.Grows extended)
    (hrun : extended.run fixture state = some (outcomes, state', reached))
    {earlier : List Outcome} {first : σ} {alone : Document}
    (halone : document.run fixture state = some (earlier, first, alone)) :
    earlier <+: outcomes ∧ alone.tables <+: reached.tables := by
  have hquestions : questionsOf extended.checks = questionsOf document.checks
      ++ questionsOf (Sheet.checks document.tables.length document.accounts more) := by
    rw [hmore.checks, questionsOf_append]
  have hlength : (fixture.verdicts state (questionsOf document.checks)).length
      = Sheet.actionCount sheets := by
    rw [Fixture.length_verdicts, h.checks]
    exact Sheet.length_questions 0 0 sheets
  obtain ⟨hverdicts, hids, -, htables⟩ := h.run hgrows halone
  obtain ⟨hverdicts', hids', -, htables'⟩ := (h.trans hmore).run hgrows' hrun
  rw [hquestions, Fixture.verdicts_append] at hverdicts' htables'
  rw [Sheet.settled_append sheets more hlength, ← hverdicts] at hverdicts'
  rw [Sheet.allShown_append sheets more hlength, ← htables] at htables'
  rw [hmore.checks, idsOf_append, ← hids] at hids'
  refine ⟨?_, ⟨_, htables'.symm⟩⟩
  have htake : earlier = outcomes.take earlier.length := by
    refine Outcome.eq_of_map ?_ ?_
    · rw [List.map_take, hids', List.take_left' (List.length_map _)]
    · rw [List.map_take, hverdicts', List.take_left' (List.length_map _)]
  exact htake ▸ List.take_prefix _ _

/-- **Later tables cannot change earlier ones.** When a document takes more tables, whatever these
are, the fixture side is asked what it would have been asked without them before anything else, the
outcomes without them are the first ones, and each earlier table ends with the same rows, results and
attached tables. With and without them a scenario table ends as it was declared, without results and
attached tables, however often it is called. There is a run of the longer document as long as no
verdict is given `2 ^ 32` times, and of the shorter one whenever there is one of the longer. -/
theorem run_extended {tables more : List (List (List String))}
    (h : ofTables defaultKind depth (tables ++ more) = some extended) :
    ∃ document, ofTables defaultKind depth tables = some document
      ∧ ∀ {σ : Type} (fixture : Fixture σ) (state : σ),
        ((∀ verdict, (fixture.verdicts state (questionsOf extended.checks)).count (some verdict)
            < UInt32.size) → (extended.run fixture.recorded (state, [])).isSome)
        ∧ ∀ outcomes last sent reached,
          extended.run fixture.recorded (state, []) = some (outcomes, (last, sent), reached) →
          ∃ earlier first asked alone,
            document.run fixture.recorded (state, []) = some (earlier, (first, asked), alone)
            ∧ earlier <+: outcomes ∧ asked <+: sent ∧ alone.tables <+: reached.tables
            ∧ alone.tables.map (·.rows) = tables.filter takes
            ∧ reached.tables.map (·.rows) = (tables ++ more).filter takes
            ∧ ∀ table, table ∈ alone.tables ∨ table ∈ reached.tables →
                kindOf table.rows = scenarioKind → table = Table.ofRows table.rows := by
  obtain ⟨document, hdocument, hmore⟩ := offerAll_append_eq_some.mp h
  obtain ⟨sheets, hsheets, hrows⟩ := adds_offerAll hdocument
  obtain ⟨later, hlater, hrows'⟩ := adds_offerAll hmore
  have hgrows : empty.Grows document := grows_offerAll hdocument
  have hgrows' : empty.Grows extended := grows_offerAll h
  refine ⟨document, hdocument, ?_⟩
  intro σ fixture state
  refine ⟨fun hroom => run_isSome hgrows' _ _ fun verdict => ?_, ?_⟩
  · rw [Fixture.verdicts_recorded]
    exact hroom verdict
  intro outcomes last sent reached hrun
  obtain ⟨⟨earlier, ⟨first, asked⟩, alone⟩, halone⟩ := Option.isSome_iff_exists.mp
    (run_of_extended hgrows (grows_offerAll hmore) hrun)
  obtain ⟨houtcomes, htables⟩ := hsheets.run_prefix hlater hgrows hgrows' hrun halone
  obtain ⟨-, -, hasked, hshown⟩ := hsheets.run hgrows halone
  obtain ⟨-, -, hsent, hshown'⟩ := (hsheets.trans hlater).run hgrows' hrun
  rw [Fixture.after_recorded, Prod.mk.injEq] at hasked hsent
  refine ⟨earlier, first, asked, alone, halone, houtcomes, ?_, htables, ?_, ?_, ?_⟩
  · rw [hasked.2, hsent.2, hlater.checks, questionsOf_append, List.map_append]
    exact List.prefix_append _ _
  · rw [hshown, Sheet.rows_allShown, hrows]
  · rw [hshown', Sheet.rows_allShown, List.map_append, hrows, hrows', List.filter_append]
  · rintro table (htable | htable) hkind
    · exact Sheet.scenario_allShown _ _ table (hshown ▸ htable) hkind
    · exact Sheet.scenario_allShown _ _ table (hshown' ▸ htable) hkind

/-- Tables that declare a scenario again which is called before, call one that calls it, and are
refused. -/
def laterTables : List (List (List String)) :=
  [[["scenario", "greet _", "who"], ["wave"]], [["scenario"]], [["comment"], ["done"]],
    [["script"], ["visit", "Eve"]]]

/-- The document with nested calls has the same six outcomes and three tables when a script that
calls the scenario `greet` in its new form runs behind it. -/
theorem run_extended_laterTables : ∃ extended document outcomes last sent reached earlier first asked
    alone, ofTables Script.kindName 2 (nestedCalls ++ laterTables) = some extended
      ∧ ofTables Script.kindName 2 nestedCalls = some document
      ∧ extended.run numbering.recorded (0, []) = some (outcomes, (last, sent), reached)
      ∧ document.run numbering.recorded (0, []) = some (earlier, (first, asked), alone)
      ∧ (earlier.length, asked.length, alone.tables.length) = (6, 4, 3)
      ∧ (outcomes.length, sent.length, reached.tables.length) = (11, 7, 5)
      ∧ earlier <+: outcomes ∧ asked <+: sent ∧ alone.tables <+: reached.tables := by
  obtain ⟨extended, hextended⟩ := Option.isSome_iff_exists.mp
    (show (ofTables Script.kindName 2 (nestedCalls ++ laterTables)).isSome by decide +kernel)
  obtain ⟨document, hdocument, hruns⟩ := run_extended hextended
  have hsizes : ((ofTables Script.kindName 2 (nestedCalls ++ laterTables)).bind
      (·.run numbering.recorded (0, []))).map (fun reached =>
        (reached.1.length, reached.2.1.2.length, reached.2.2.tables.length)) = some (11, 7, 5) := by
    decide +kernel
  have hsizes' : ((ofTables Script.kindName 2 nestedCalls).bind
      (·.run numbering.recorded (0, []))).map (fun reached =>
        (reached.1.length, reached.2.1.2.length, reached.2.2.tables.length)) = some (6, 4, 3) := by
    decide +kernel
  rw [hextended, Option.bind_some] at hsizes
  rw [hdocument, Option.bind_some] at hsizes'
  obtain ⟨⟨outcomes, ⟨last, sent⟩, reached⟩, hrun, hlengths⟩ := Option.map_eq_some_iff.mp hsizes
  obtain ⟨earlier, first, asked, alone, halone, houtcomes, hasked, htables, -⟩ :=
    (hruns numbering 0).2 outcomes last sent reached hrun
  rw [halone, Option.map_some, Option.some_inj] at hsizes'
  exact ⟨extended, document, outcomes, last, sent, reached, earlier, first, asked, alone, hextended,
    hdocument, hrun, halone, hsizes', hlengths, houtcomes, hasked, htables⟩

end Document

end ScenarioTables
