import ScenarioTables.Proofs.Sheets

/-!
# Scripts without scenarios between them can change places

The scripts of a stretch of tables in which no scenario is declared read the same scenarios, so each
has the same outline wherever it stands in the stretch. Ids, numbers of tables and accounts change
with the order, but no outcome depends on them: to a fixture side whose answer to a request depends
on the request only (`Fixture.Replies`) every sheet has results of its own (`Sheet.results`). So the
tables of the stretch change places with their results and with everything attached to them, the
other tables stay as they are, and the tally counts the same verdicts (`Document.run_rearranged`).

A table that declares a scenario cannot be moved so: the rows in front of it and behind it can mean
different things.
-/

set_option autoImplicit false

namespace ScenarioTables

/-- What a fixture side answers to an actor, a method and arguments. -/
abbrev Reactions := String → String → List String → Except Fault (Option String)

/-- The answers of a fixture side depend on the request only: neither on the id of the instruction
nor on what was asked before. -/
def Fixture.Replies {σ : Type} (fixture : Fixture σ) (reactions : Reactions) : Prop :=
  ∀ id actor method arguments state,
    (fixture (.call id actor method arguments) state).1 = reactions actor method arguments

/-- The judged answer to a request. -/
def judgedBy (reactions : Reactions) :
    Option (String × String × List String) × Judge → Option Verdict
  | (some (actor, method, arguments), judge) =>
    judge.verdict? (Reply.ofAnswer (reactions actor method arguments))
  | (none, judge) => judge.verdict? .void

/-- Against a fixture that replies to a request alone, verdicts follow from what is asked. -/
theorem Fixture.Replies.verdicts_eq {σ : Type} {fixture : Fixture σ} {reactions : Reactions}
    (h : fixture.Replies reactions) {checks : List Check} (hproper : ∀ check ∈ checks, check.Proper)
    (state : σ) : fixture.verdicts state (questionsOf checks)
      = (asksOf (questionsOf checks)).map (judgedBy reactions) := by
  induction checks generalizing state with
  | nil => rfl
  | cons check checks ih =>
    have hrest := ih fun other hother => hproper other (List.mem_cons_of_mem _ hother)
    cases hproper check List.mem_cons_self with
    | @row id actor method arguments judge table row scope hscope =>
      have hquestions : questionsOf (⟨.call id actor method arguments,
            .row judge table row scope⟩ :: checks)
          = (.call id actor method arguments, judge) :: questionsOf checks := rfl
      rw [hquestions, verdicts_cons, hrest, h]
      rfl
    | rollUp _ => exact hrest state

namespace Sheet

/-- The results of a sheet when the answers depend on the requests only. -/
def results (reactions : Reactions) (sheet : Sheet) : List (Option Verdict) :=
  sheet.outline.asks.map (judgedBy reactions)

theorem asksOf_checks (tables accounts : Nat) (sheets : List Sheet) :
    asksOf (questionsOf (checks tables accounts sheets)) = sheets.flatMap (·.outline.asks) := by
  induction sheets generalizing tables accounts with
  | nil => rfl
  | cons sheet sheets ih =>
    have hrest := ih (tables + 1) (accounts + sheet.outline.callCount)
    have hfirst := sheet.outline.asksOf_checks (sheet.place tables accounts)
    simp only [asksOf] at hrest hfirst
    rw [checks, questionsOf_append, asksOf, List.map_append, hrest, hfirst, List.flatMap_cons]

/-- Every sheet gets its own results. -/
theorem dealt_results (reactions : Reactions) (sheets : List Sheet) :
    dealt sheets (sheets.flatMap (results reactions))
      = sheets.map fun sheet => (sheet, sheet.results reactions) := by
  induction sheets with
  | nil => rfl
  | cons sheet sheets ih =>
    have hlength : (sheet.results reactions).length = sheet.outline.asks.length := List.length_map _
    rw [dealt, List.flatMap_cons, List.take_left' hlength, List.drop_left' hlength, ih, List.map_cons]

end Sheet

namespace Document

variable {defaultKind : String} {depth : Nat} {document other last : Document} {σ : Type}
  {fixture : Fixture σ} {state state' : σ} {outcomes : List Outcome} {reached : Document}
  {reactions : Reactions} {sheets : List Sheet}

/-- The results of a document when the answers depend on the requests only are those of its
sheets. -/
theorem Adds.verdicts_eq (h : empty.Adds sheets document) (hgrows : empty.Grows document)
    (hreplies : fixture.Replies reactions) (state : σ) :
    fixture.verdicts state (questionsOf document.checks)
      = sheets.flatMap (Sheet.results reactions) := by
  have hchecks : document.checks = Sheet.checks 0 0 sheets := h.checks
  rw [hreplies.verdicts_eq hgrows.proper, hchecks, Sheet.asksOf_checks, List.map_flatMap]
  rfl

/-- A run marks every table with the results of its own sheet. -/
theorem Adds.tables_of_run (h : empty.Adds sheets document) (hgrows : empty.Grows document)
    (hreplies : fixture.Replies reactions)
    (hrun : document.run fixture state = some (outcomes, state', reached)) :
    reached.tables = sheets.map fun sheet => sheet.shown (sheet.results reactions) := by
  obtain ⟨-, -, -, htables⟩ := h.run hgrows hrun
  rw [htables, h.verdicts_eq hgrows hreplies, Sheet.allShown, Sheet.dealt_results, List.map_map]
  rfl

/-! ## A stretch without scenarios -/

/-- What a stretch of tables in which no scenario is declared needs to be taken: each of its scripts
has an outline. -/
theorem expands_of_offerAll {tables : List (List (List String))}
    (hscripts : ∀ rows ∈ tables, takes rows = true → kindOf rows = Script.kindName)
    (h : document.offerAll defaultKind depth tables = some last) :
    ∀ rows ∈ tables, takes rows = true → ∃ sheet : Sheet, sheet.rows = rows
      ∧ Expands document.context.scenarios rows.tail sheet.outline ∧ sheet.outline.depth ≤ depth := by
  induction tables generalizing document with
  | nil => intro rows hrows; cases hrows
  | cons first tables ih =>
    obtain ⟨next, hoffer, hrest⟩ := offerAll_cons_eq_some.mp h
    have hlater := fun rows hrows => hscripts rows (List.mem_cons_of_mem _ hrows)
    by_cases htakes : takes first = true
    · have hkind := hscripts first List.mem_cons_self htakes
      obtain ⟨outline, houtline, hdepth, rfl⟩ := outline_of_offer hkind hoffer
      intro rows hrows htaken
      rcases List.mem_cons.mp hrows with rfl | hrows
      · exact ⟨scriptSheet hkind outline, rfl, houtline, hdepth⟩
      · exact ih hlater hrest rows hrows htaken
    · cases (document.offer_of_not_takes htakes).symm.trans hoffer
      intro rows hrows htaken
      rcases List.mem_cons.mp hrows with rfl | hrows
      · exact absurd htaken htakes
      · exact ih hlater hrest rows hrows htaken

/-- A stretch of tables whose scripts have outlines is taken, and adds their sheets. -/
theorem offerAll_of_expands {tables : List (List (List String))}
    (hscripts : ∀ rows ∈ tables, takes rows = true → kindOf rows = Script.kindName)
    {sheetOf : List (List String) → Sheet}
    (hsheets : ∀ rows ∈ tables, takes rows = true → (sheetOf rows).rows = rows
      ∧ Expands document.context.scenarios rows.tail (sheetOf rows).outline
      ∧ (sheetOf rows).outline.depth ≤ depth) :
    ∃ last, document.offerAll defaultKind depth tables = some last
      ∧ last.context.scenarios = document.context.scenarios
      ∧ document.Adds ((tables.filter takes).map sheetOf) last := by
  induction tables generalizing document with
  | nil => exact ⟨document, rfl, rfl, .refl document⟩
  | cons rows tables ih =>
    have hlater := fun rows hrows => hscripts rows (List.mem_cons_of_mem _ hrows)
    have hothers := fun rows hrows => hsheets rows (List.mem_cons_of_mem _ hrows)
    by_cases htakes : takes rows = true
    · have hkind := hscripts rows List.mem_cons_self htakes
      obtain ⟨hrows, houtline, hdepth⟩ := hsheets rows List.mem_cons_self htakes
      have hadds := document.adds_scripted (sheetOf rows)
      rw [hrows] at hadds
      obtain ⟨last, hlast, hscenarios, hmore⟩ :=
        @ih (document.scripted rows (sheetOf rows).outline) hlater hothers
      refine ⟨last, offerAll_cons_eq_some.mpr ⟨_, offer_script hkind houtline hdepth, hlast⟩,
        hscenarios, ?_⟩
      rw [List.filter_cons_of_pos htakes]
      exact hadds.trans hmore
    · obtain ⟨last, hlast, hscenarios, hmore⟩ := @ih document hlater hothers
      refine ⟨last, offerAll_cons_eq_some.mpr ⟨_, document.offer_of_not_takes htakes, hlast⟩,
        hscenarios, ?_⟩
      rw [List.filter_cons_of_neg htakes]
      exact hmore

/-- The sheets of a document whose tables in a stretch without scenarios were rearranged. -/
theorem exists_rearranged {before middle middle' after : List (List (List String))}
    (hscripts : ∀ rows ∈ middle, takes rows = true → kindOf rows = Script.kindName)
    (hperm : middle.Perm middle')
    (h : ofTables defaultKind depth (before ++ middle ++ after) = some document) :
    ∃ document' front sheetOf behind,
      ofTables defaultKind depth (before ++ middle' ++ after) = some document'
      ∧ empty.Adds (front ++ (middle.filter takes).map sheetOf ++ behind) document
      ∧ empty.Adds (front ++ (middle'.filter takes).map sheetOf ++ behind) document'
      ∧ front.map (·.rows) = before.filter takes ∧ behind.map (·.rows) = after.filter takes
      ∧ ∀ rows ∈ middle, takes rows = true → (sheetOf rows : Sheet).rows = rows := by
  obtain ⟨stretched, hstretched, hafter⟩ := offerAll_append_eq_some.mp h
  obtain ⟨earlier, hearlier, hmiddle⟩ := offerAll_append_eq_some.mp hstretched
  obtain ⟨front, hfront, hfrontRows⟩ := adds_offerAll hearlier
  -- One sheet for each table of the stretch, chosen once for both orders.
  have hsheets : ∀ rows, ∃ sheet : Sheet, rows ∈ middle → takes rows = true → sheet.rows = rows
      ∧ Expands earlier.context.scenarios rows.tail sheet.outline ∧ sheet.outline.depth ≤ depth := by
    intro rows
    by_cases hrows : rows ∈ middle ∧ takes rows = true
    · obtain ⟨sheet, hsheet⟩ := expands_of_offerAll hscripts hmiddle rows hrows.1 hrows.2
      exact ⟨sheet, fun _ _ => hsheet⟩
    · exact ⟨scenarioSheet rows, fun hmem htakes => absurd ⟨hmem, htakes⟩ hrows⟩
  obtain ⟨sheetOf, hsheetOf⟩ := Classical.skolem.mp hsheets
  obtain ⟨reached, hreached, hscenarios, hadds⟩ := offerAll_of_expands hscripts hsheetOf
  cases hreached.symm.trans hmiddle
  have hmem {rows : List (List String)} : rows ∈ middle' → rows ∈ middle := hperm.mem_iff.mpr
  obtain ⟨stretched', hmiddle', hscenarios', hadds'⟩ := offerAll_of_expands
    (fun rows hrows => hscripts rows (hmem hrows)) fun rows hrows => hsheetOf rows (hmem hrows)
  have hagrees : stretched.Agrees stretched' := by
    refine ⟨hscenarios'.trans hscenarios.symm, ?_⟩
    rw [hadds.length, hadds'.length, List.length_map, List.length_map,
      (hperm.filter takes).length_eq]
  obtain ⟨behind, document', hafter', -, hbehind, hbehind', hbehindRows⟩ := hagrees.offerAll hafter
  refine ⟨document', front, sheetOf, behind, ?_, (hfront.trans hadds).trans hbehind,
    (hfront.trans hadds').trans hbehind', hfrontRows, hbehindRows,
    fun rows hrows htakes => (hsheetOf rows hrows htakes).1⟩
  exact offerAll_append_eq_some.mpr
    ⟨stretched', offerAll_append_eq_some.mpr ⟨earlier, hearlier, hmiddle'⟩, hafter'⟩

/-- Rearranged sheets have the same results in another order. -/
theorem Adds.count_verdicts {sheets' : List Sheet} (h : empty.Adds sheets document)
    (h' : empty.Adds sheets' other) (hperm : sheets.Perm sheets') (hgrows : empty.Grows document)
    (hgrows' : empty.Grows other) (hreplies : fixture.Replies reactions) (state state' : σ)
    (verdict : Option Verdict) :
    (fixture.verdicts state' (questionsOf other.checks)).count verdict
      = (fixture.verdicts state (questionsOf document.checks)).count verdict := by
  rw [h.verdicts_eq hgrows hreplies, h'.verdicts_eq hgrows' hreplies]
  exact (hperm.flatMap_right _).symm.count_eq verdict

/-- **Tables without scenarios between them commute.** In a stretch of tables in which no scenario is
declared the tables are put into another order. The document that takes them so can be run whenever
the one that takes them as they were can, its summary is the same, and so is every table: the tables
before and behind the stretch stand where they stood, and those of the stretch, which a function of
their rows shows, have changed places with their results and with everything attached to them. The
fixture side answers to the request alone; its states do not matter. -/
theorem run_rearranged {before middle middle' after : List (List (List String))}
    (hscripts : ∀ rows ∈ middle, takes rows = true → kindOf rows = Script.kindName)
    (hperm : middle.Perm middle')
    (h : ofTables defaultKind depth (before ++ middle ++ after) = some document) :
    ∃ document', ofTables defaultKind depth (before ++ middle' ++ after) = some document'
      ∧ ∀ {σ : Type} (fixture : Fixture σ) (reactions : Reactions), fixture.Replies reactions →
        ∀ state state' : σ,
        ((∀ verdict, (fixture.verdicts state (questionsOf document.checks)).count (some verdict)
            < UInt32.size) → (document.run fixture state).isSome)
        ∧ ((document.run fixture state).isSome ↔ (document'.run fixture state').isSome)
        ∧ ∃ (front behind : List Table) (shownOf : List (List String) → Table),
          front.map (·.rows) = before.filter takes ∧ behind.map (·.rows) = after.filter takes
          ∧ (∀ rows ∈ middle, takes rows = true → (shownOf rows).rows = rows)
          ∧ ∀ outcomes last reached outcomes' last' reached',
            document.run fixture state = some (outcomes, last, reached) →
            document'.run fixture state' = some (outcomes', last', reached') →
            reached'.summary = reached.summary
            ∧ reached.tables = front ++ (middle.filter takes).map shownOf ++ behind
            ∧ reached'.tables = front ++ (middle'.filter takes).map shownOf ++ behind := by
  obtain ⟨document', front, sheetOf, behind, hdocument', hadds, hadds', hfront, hbehind, hrows⟩ :=
    exists_rearranged hscripts hperm h
  have hgrows : empty.Grows document := grows_offerAll h
  have hgrows' : empty.Grows document' := grows_offerAll hdocument'
  have hsheets := (((hperm.filter takes).map sheetOf).append_left front).append_right behind
  refine ⟨document', hdocument', ?_⟩
  intro σ fixture reactions hreplies state state'
  have hcount := hadds.count_verdicts hadds' hsheets hgrows hgrows' hreplies state state'
  refine ⟨run_isSome hgrows fixture state, ?_, ?_⟩
  · rw [run_isSome_iff hgrows, run_isSome_iff hgrows']
    simp only [hcount]
  refine ⟨front.map fun sheet => sheet.shown (sheet.results reactions),
    behind.map fun sheet => sheet.shown (sheet.results reactions),
    fun rows => (sheetOf rows).shown ((sheetOf rows).results reactions), ?_, ?_, ?_, ?_⟩
  · rw [← hfront, List.map_map]
    exact List.map_congr_left fun _ _ => Sheet.rows_shown _ _
  · rw [← hbehind, List.map_map]
    exact List.map_congr_left fun _ _ => Sheet.rows_shown _ _
  · intro rows hmem htakes
    rw [Sheet.rows_shown]
    exact hrows rows hmem htakes
  intro outcomes last reached outcomes' last' reached' hrun hrun'
  have htables := hadds.tables_of_run hgrows hreplies hrun
  have htables' := hadds'.tables_of_run hgrows' hreplies hrun'
  rw [List.map_append, List.map_append, List.map_map] at htables htables'
  refine ⟨Tally.eq_of_countOf fun verdict => ?_, htables, htables'⟩
  obtain ⟨hresults, hcounts⟩ := counts_of_run hgrows hrun
  obtain ⟨hresults', hcounts'⟩ := counts_of_run hgrows' hrun'
  rw [hcounts', hcounts, hresults', hresults, hcount]

/-- A fixture side that answers `true` to a request without arguments and `false` to any other, and
counts the requests. -/
def curt : Fixture Nat
  | .noop _, number => (.ok none, number)
  | .call _ _ _ arguments, number =>
    (.ok (some (if arguments = [] then "true" else "false")), number + 1)

/-- A script that calls, a table that is refused and a script of two rows; two scenarios stand before
them, and a script that calls both behind. -/
def stretch : List (List (List String)) :=
  [[["script"], ["visit", "Ann"]], [["comment"], ["later"]],
    [["script"], ["ensure", "leave"], ["greet", "Bob"]]]

/-- The two scripts change places, and the tally of what failed and passed is the same. -/
theorem run_rearranged_stretch : ∃ document document' outcomes last reached outcomes' last' reached'
    front behind visiting leaving,
    ofTables Script.kindName 2 (nestedCalls.take 2 ++ stretch ++ nestedCalls.drop 2) = some document
      ∧ ofTables Script.kindName 2 (nestedCalls.take 2 ++ stretch.reverse ++ nestedCalls.drop 2)
        = some document'
      ∧ document.run curt 0 = some (outcomes, last, reached)
      ∧ document'.run curt 5 = some (outcomes', last', reached')
      ∧ reached.summary = ⟨5, 4, 0, 0⟩ ∧ reached'.summary = ⟨5, 4, 0, 0⟩
      ∧ reached.tables = front ++ [visiting, leaving] ++ behind
      ∧ reached'.tables = front ++ [leaving, visiting] ++ behind := by
  obtain ⟨document, hdocument⟩ := Option.isSome_iff_exists.mp
    (show (ofTables Script.kindName 2 (nestedCalls.take 2 ++ stretch ++ nestedCalls.drop 2)).isSome
      by decide +kernel)
  have hreplies : curt.Replies fun _ _ arguments =>
      .ok (some (if arguments = [] then "true" else "false")) := fun _ _ _ _ _ => rfl
  obtain ⟨document', hdocument', hruns⟩ := run_rearranged (by decide +kernel)
    (List.reverse_perm stretch).symm hdocument
  obtain ⟨-, hsame, front, behind, shownOf, -, -, -, hshown⟩ := hruns curt _ hreplies 0 5
  have hsummary : ((ofTables Script.kindName 2 (nestedCalls.take 2 ++ stretch
      ++ nestedCalls.drop 2)).bind (·.run curt 0)).map (fun reached => reached.2.2.summary)
        = some ⟨5, 4, 0, 0⟩ := by decide +kernel
  rw [hdocument, Option.bind_some] at hsummary
  obtain ⟨⟨outcomes, last, reached⟩, hrun, htally⟩ := Option.map_eq_some_iff.mp hsummary
  obtain ⟨⟨outcomes', last', reached'⟩, hrun'⟩ := Option.isSome_iff_exists.mp
    (hsame.mp (Option.isSome_of_eq_some hrun))
  obtain ⟨hsummaries, htables, htables'⟩ := hshown _ _ _ _ _ _ hrun hrun'
  have htaken : stretch.filter takes = [stretch[0], stretch[2]] := by decide +kernel
  have htaken' : stretch.reverse.filter takes = [stretch[2], stretch[0]] := by decide +kernel
  rw [htaken] at htables
  rw [htaken'] at htables'
  exact ⟨document, document', outcomes, last, reached, outcomes', last', reached', front, behind,
    shownOf stretch[0], shownOf stretch[2], hdocument, hdocument', hrun, hrun', htally,
    hsummaries.trans htally, htables, htables'⟩

end Document

end ScenarioTables
