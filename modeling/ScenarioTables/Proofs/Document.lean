import ScenarioTables.Report
import ScenarioTables.Proofs.Reading
import ScenarioTables.Proofs.Run

/-!
# Documents over the factory of scripts

A document takes the tables that it is offered one after another; one that is refused leaves no
trace (`offer`). A scenario table is declared, a script is read as its outline says, and every other
table is refused (`offer_scenario`, `offer_script`, `offer_other`). There is no document when the
calls of a script nest beyond the allowed depth.

A document only grows (`Grows`): assertions are added behind the others, in accounts of their own,
and nothing is counted before the run. What a whole run shows follows from there (`run_shown`), and
its summary counts the result of every instruction that was sent once (`summary_counts`).
-/

set_option autoImplicit false

namespace ScenarioTables

namespace Document

/-- The place at which the rows of the document's next script are read. -/
def place (document : Document) (rows : List (List String)) : Place where
  assignment := document.assignment Script.kindName rows
  row := 1
  number := 0
  account := document.context.ledger.calls.length
  position := 0

/-- The document after a script whose rows have an outline. -/
def scripted (document : Document) (rows : List (List String)) (outline : Outline) : Document :=
  { document.withBoard ((document.board.place (Table.ofRows rows)).after (document.place rows)
      outline) with checks := document.checks ++ outline.checks (document.place rows) }

variable {defaultKind : String} {depth : Nat} {document next : Document}
  {rows : List (List String)} {outline : Outline}

/-- The next script is read where it has just been placed, with nothing attached to it. -/
theorem place_standsOn (document : Document) (rows : List (List String)) :
    (document.place rows).StandsOn (document.board.place (Table.ofRows rows)) := by
  refine ⟨rfl, rfl, Table.ofRows rows, ?_, rfl⟩
  simp only [place, assignment, Board.table?, Board.place, board, List.getElem?_concat_length]
  rfl

/-- The next script lies outside all calls. -/
theorem place_sound (document : Document) (rows : List (List String)) :
    (document.place rows).Sound :=
  ⟨List.Pairwise.nil, fun _ hnumber => absurd hnumber List.not_mem_nil⟩

/-! ## What becomes of a table -/

/-- A scenario table is shown and its scenario registered, if its header can be read. -/
theorem declared_eq (document : Document) (rows : List (List String)) :
    document.declared rows = match Scenario.ofRows? document.nextTableId rows with
      | .ok scenario =>
        { document with
          context := document.context.register scenario.name scenario
          tables := document.tables ++ [Table.ofRows rows] }
      | .error _ => document := by
  unfold declared addScenario Context.define
  cases Scenario.ofRows? document.nextTableId rows <;> rfl

theorem addTable_scenario (h : kindOf rows = scenarioKind) :
    document.addTable Script.factory defaultKind depth rows
      = match Scenario.ofRows? document.nextTableId rows with
        | .ok _ => .ok (document.declared rows)
        | .error fault => .error (.fault fault) := by
  unfold addTable step declared
  simp only [if_pos h, addScenario, Context.define]
  cases Scenario.ofRows? document.nextTableId rows <;> rfl

theorem offer_scenario (h : kindOf rows = scenarioKind) :
    document.offer defaultKind depth rows = some (document.declared rows) := by
  unfold offer
  rw [addTable_scenario h, declared_eq]
  cases Scenario.ofRows? document.nextTableId rows <;> rfl

/-- Reading a script starts at the document's place. -/
private theorem addTable_script (h : kindOf rows = Script.kindName) :
    document.addTable Script.factory defaultKind depth rows
      = match Script.assertionsFrom (document.place rows).assignment
            (scriptExpander defaultKind document.context.scenarios depth) 1 0 rows.tail
            (document.board.place (Table.ofRows rows)) with
        | (.error stop, _) => .error stop
        | (.ok checks, board) =>
          .ok { document.withBoard board with checks := document.checks ++ checks } := by
  have hsupports : Script.factory.supports Script.kindName = true := rfl
  unfold addTable step
  simp only [h, show Script.kindName ≠ scenarioKind by decide, if_false, hsupports, if_true,
    Script.factory_make (show (document.assignment Script.kindName rows).kind = _ from rfl)]
  rcases hread : Script.assertionsFrom (document.place rows).assignment
    (scriptExpander defaultKind document.context.scenarios depth) 1 0 rows.tail
    (document.board.place (Table.ofRows rows)) with ⟨answer, board⟩
  have hbuilt : (Script.interpreter (document.assignment Script.kindName rows)).assertions
      (document.expander Script.factory defaultKind depth)
      (document.board.place (Table.ofRows rows)) = (answer, board) := hread
  rw [hbuilt]
  cases answer <;> rfl

/-- A script with an outline that is not too deep is read as its outline says. -/
theorem offer_script (h : kindOf rows = Script.kindName)
    (houtline : Expands document.context.scenarios rows.tail outline)
    (hdepth : outline.depth ≤ depth) :
    document.offer defaultKind depth rows = some (document.scripted rows outline) := by
  unfold offer
  rw [addTable_script h]
  have hread := assertionsFrom_of_expands defaultKind houtline hdepth (document.place_standsOn rows)
  rw [show (document.place rows).row = 1 from rfl, show (document.place rows).number = 0 from rfl]
    at hread
  rw [hread]
  rfl

/-- A script that was taken has an outline. -/
theorem outline_of_offer (h : kindOf rows = Script.kindName)
    (hoffer : document.offer defaultKind depth rows = some next) :
    ∃ outline, Expands document.context.scenarios rows.tail outline ∧ outline.depth ≤ depth
      ∧ next = document.scripted rows outline := by
  rcases expands_or_tooDeep defaultKind document.context.scenarios depth rows.tail with
    ⟨outline, houtline, hdepth⟩ | hdeep
  · refine ⟨outline, houtline, hdepth, ?_⟩
    rw [offer_script h houtline hdepth] at hoffer
    exact (Option.some.inj hoffer).symm
  · have hstop := hdeep (document.place rows) _ (document.place_standsOn rows)
    have hread : Script.assertionsFrom (document.place rows).assignment
        (scriptExpander defaultKind document.context.scenarios depth) 1 0 rows.tail
        (document.board.place (Table.ofRows rows)) = (.error .tooDeep, _) := Prod.ext hstop rfl
    unfold offer at hoffer
    rw [addTable_script h, hread] at hoffer
    cases hoffer

theorem addTable_other (hscript : kindOf rows ≠ Script.kindName)
    (hscenario : kindOf rows ≠ scenarioKind) :
    document.addTable Script.factory defaultKind depth rows
      = .error (.fault (.unknownTableType (kindOf rows) document.nextTableId)) := by
  have hsupports : Script.factory.supports (kindOf rows) = false :=
    decide_eq_false fun hmem => hscript (List.mem_singleton.mp hmem)
  unfold addTable step
  simp only [if_neg hscenario, hsupports, Bool.false_eq_true, if_false]

theorem offer_other (hscript : kindOf rows ≠ Script.kindName)
    (hscenario : kindOf rows ≠ scenarioKind) :
    document.offer defaultKind depth rows = some document := by
  unfold offer
  rw [addTable_other hscript hscenario]

/-- A table that changed the document was taken. -/
theorem addTable_of_offer (hoffer : document.offer defaultKind depth rows = some next)
    (hne : next ≠ document) :
    document.addTable Script.factory defaultKind depth rows = .ok next := by
  unfold offer at hoffer
  split at hoffer
  next htaken => cases hoffer; exact htaken
  next => cases hoffer; exact absurd rfl hne
  next => cases hoffer

/-- What offering a table comes to: a script is read, a scenario is declared, and any other table
changes nothing. -/
theorem offer_cases (hoffer : document.offer defaultKind depth rows = some next) :
    (kindOf rows = Script.kindName ∧ ∃ outline, Expands document.context.scenarios rows.tail outline
        ∧ outline.depth ≤ depth ∧ next = document.scripted rows outline)
      ∨ (kindOf rows = scenarioKind ∧ next = document.declared rows)
      ∨ (kindOf rows ≠ Script.kindName ∧ kindOf rows ≠ scenarioKind ∧ next = document) := by
  by_cases hscript : kindOf rows = Script.kindName
  · exact Or.inl ⟨hscript, outline_of_offer hscript hoffer⟩
  · by_cases hscenario : kindOf rows = scenarioKind
    · cases (offer_scenario hscenario).symm.trans hoffer
      exact Or.inr (Or.inl ⟨hscenario, rfl⟩)
    · cases (offer_other hscript hscenario).symm.trans hoffer
      exact Or.inr (Or.inr ⟨hscript, hscenario, rfl⟩)

/-! ## Growth -/

/-- One document grew to be another: accounts were opened and assertions added, each in accounts
that are new. -/
structure Grows (first last : Document) : Prop where
  counted : last.context.ledger.document = first.context.ledger.document
  calls : ∃ number, last.context.ledger.calls
    = first.context.ledger.calls ++ List.replicate number ⟨.zero, false⟩
  checks : ∃ made, last.checks = first.checks ++ made
    ∧ ∀ check ∈ made, check.Within [] first.accounts last.accounts

/-- Growth adds accounts. -/
theorem Grows.accounts_le {first last : Document} (h : first.Grows last) :
    first.accounts ≤ last.accounts := by
  obtain ⟨number, hnumber⟩ := h.calls
  simp only [accounts, hnumber, List.length_append]
  exact Nat.le_add_right _ _

theorem Grows.refl (document : Document) : document.Grows document :=
  ⟨rfl, ⟨0, (List.append_nil _).symm⟩,
    ⟨[], (List.append_nil _).symm, fun _ hcheck => absurd hcheck List.not_mem_nil⟩⟩

theorem Grows.trans {first middle last : Document} (hfirst : first.Grows middle)
    (hlast : middle.Grows last) : first.Grows last := by
  obtain ⟨earlier, hearlier⟩ := hfirst.calls
  obtain ⟨later, hlater⟩ := hlast.calls
  obtain ⟨before, hbefore, hwithin⟩ := hfirst.checks
  obtain ⟨behind, hbehind, hwithin'⟩ := hlast.checks
  refine ⟨hlast.counted.trans hfirst.counted, ⟨earlier + later, ?_⟩, before ++ behind, ?_, ?_⟩
  · rw [hlater, hearlier, List.append_assoc, List.replicate_append_replicate]
  · rw [hbehind, hbefore, List.append_assoc]
  · intro check hcheck
    rcases List.mem_append.mp hcheck with hmade | hmade
    · exact (hwithin check hmade).widen (Nat.le_refl _) hlast.accounts_le
    · exact (hwithin' check hmade).widen hfirst.accounts_le (Nat.le_refl _)

/-- Declaring a scenario opens no account and adds no assertion. -/
theorem grows_declared (document : Document) (rows : List (List String)) :
    document.Grows (document.declared rows) := by
  rw [declared_eq]
  cases Scenario.ofRows? document.nextTableId rows with
  | error fault => exact .refl document
  | ok scenario => exact ⟨rfl, (Grows.refl document).calls, (Grows.refl document).checks⟩

/-- A script opens one account for each of its calls, at every depth. -/
theorem accounts_scripted (document : Document) (rows : List (List String)) (outline : Outline) :
    (document.scripted rows outline).accounts = document.accounts + outline.callCount :=
  List.length_append.trans (congrArg _ List.length_replicate)

theorem length_scripted (document : Document) (rows : List (List String)) (outline : Outline) :
    (document.scripted rows outline).tables.length = document.tables.length + 1 :=
  (List.length_modify _ _ _).trans List.length_append

/-- The assertions of a script report in accounts that it has opened itself. -/
theorem grows_scripted (document : Document) (rows : List (List String)) (outline : Outline) :
    document.Grows (document.scripted rows outline) := by
  refine ⟨rfl, ⟨outline.callCount, rfl⟩, outline.checks (document.place rows), rfl, ?_⟩
  intro check hcheck
  have hwithin := Outline.within_of_mem_checks (document.place_sound rows) check hcheck
  exact hwithin.widen (Nat.le_refl _) (Nat.le_of_eq (document.accounts_scripted rows outline).symm)

/-- A document grows with every table that it is offered. -/
theorem grows_offer (hoffer : document.offer defaultKind depth rows = some next) :
    document.Grows next := by
  rcases offer_cases hoffer with ⟨-, outline, -, -, rfl⟩ | ⟨-, rfl⟩ | ⟨-, -, rfl⟩
  · exact document.grows_scripted rows outline
  · exact document.grows_declared rows
  · exact .refl _

/-- Tables are offered one after another. -/
theorem offerAll_cons_eq_some {tables : List (List (List String))} {last : Document} :
    document.offerAll defaultKind depth (rows :: tables) = some last ↔
      ∃ next, document.offer defaultKind depth rows = some next
        ∧ next.offerAll defaultKind depth tables = some last := by
  simp only [offerAll, List.foldlM_cons, Option.bind_eq_bind, Option.bind_eq_some_iff]

/-- A document grows with all tables that it is offered. -/
theorem grows_offerAll {tables : List (List (List String))} {last : Document}
    (h : document.offerAll defaultKind depth tables = some last) : document.Grows last := by
  induction tables generalizing document with
  | nil => cases h; exact .refl _
  | cons rows tables ih =>
    obtain ⟨next, hoffer, hrest⟩ := offerAll_cons_eq_some.mp h
    exact (grows_offer hoffer).trans (ih hrest)

/-! ## Running -/

variable {σ : Type}

/-- In a document that grew from nothing every account is open and has counted nothing. -/
theorem Grows.fresh (h : empty.Grows document) {number : Nat} (hnumber : number < document.accounts) :
    document.board.ledger.calls[number]? = some ⟨.zero, false⟩ := by
  obtain ⟨calls, hcalls⟩ := h.calls
  rw [show empty.context.ledger.calls = [] from rfl, List.nil_append] at hcalls
  rw [accounts, hcalls, List.length_replicate] at hnumber
  rw [show document.board.ledger = document.context.ledger from rfl, hcalls,
    List.getElem?_replicate_of_lt hnumber]

/-- In a document that grew from nothing no account has counted more than the document. -/
theorem Grows.bounded (h : empty.Grows document) : document.board.ledger.Bounded := by
  intro account haccount verdict
  obtain ⟨number, hnumber⟩ := List.getElem?_of_mem haccount
  have hlength := (List.getElem?_eq_some_iff.mp hnumber).1
  rw [h.fresh hlength, Option.some_inj] at hnumber
  rw [← hnumber, Tally.countOf_zero]
  exact Nat.zero_le _

/-- In a document that grew from nothing no scope names an account twice. -/
theorem Grows.proper (h : empty.Grows document) : ∀ check ∈ document.checks, check.Proper := by
  obtain ⟨made, hmade, hwithin⟩ := h.checks
  intro check hcheck
  exact (hwithin check (hmade ▸ hcheck : check ∈ [] ++ made)).proper

/-- A run shows the verdicts on the answers to the document's questions, and its tally. -/
theorem run_shown {document : Document} (h : empty.Grows document) (fixture : Fixture σ) (state : σ) :
    ((document.run fixture state).map fun reached =>
        (resultsOf document.checks reached.1, reached.2.1, reached.2.2.summary))
      = (Tally.zero.addAll (fixture.verdicts state (questionsOf document.checks))).map fun tally =>
          (fixture.verdicts state (questionsOf document.checks),
            fixture.after state ((questionsOf document.checks).map Prod.fst), tally) := by
  have hshown := @runChecks_shown σ fixture state document.board document.checks h.proper h.bounded
  rw [show document.board.ledger.document = Tally.zero from h.counted] at hshown
  rw [run, Option.map_map]
  exact hshown

/-- A document can be run as long as no verdict is given `2 ^ 32` times. -/
theorem run_isSome {document : Document} (h : empty.Grows document) (fixture : Fixture σ) (state : σ)
    (hcount : ∀ verdict,
      (fixture.verdicts state (questionsOf document.checks)).count (some verdict) < UInt32.size) :
    (document.run fixture state).isSome := by
  have hshown := congrArg Option.isSome (run_shown h fixture state)
  rw [Option.isSome_map, Option.isSome_map] at hshown
  rw [hshown]
  apply Tally.addAll_isSome
  intro verdict
  rw [Tally.countOf_zero, Nat.zero_add]
  exact hcount verdict

/-! ## An example -/

/-- A script that calls a scenario which calls another one in turn. -/
def nestedCalls : List (List (List String)) :=
  [[["scenario", "greet _", "who"], ["say", "hello @who"]],
    [["scenario", "visit _", "host"], ["greet", "@host"], ["open door"], ["ensure", "leave"]],
    [["script"], ["visit", "Ann"], ["reject", "open door"]]]

/-- A fixture side that answers the first request with `false`, the second with `true` and any other
with its number. -/
def numbering : Fixture Nat := fun _ number =>
  (.ok (some (if number = 0 then "false" else if number = 1 then "true" else toString number)),
    number + 1)

/-- Both calls are made, and every row gets a verdict. -/
theorem verdicts_nestedCalls : ∃ document, ofTables Script.kindName 2 nestedCalls = some document
    ∧ numbering.verdicts 0 (questionsOf document.checks)
        = [some .fail, some .pass, some .fail, some .fail] := by
  obtain ⟨document, hdocument⟩ := Option.isSome_iff_exists.mp
    (show (ofTables Script.kindName 2 nestedCalls).isSome by decide +kernel)
  have hverdicts : (ofTables Script.kindName 2 nestedCalls).map (fun document =>
      numbering.verdicts 0 (questionsOf document.checks))
        = some [some .fail, some .pass, some .fail, some .fail] := by decide +kernel
  rw [hdocument, Option.map_some, Option.some_inj] at hverdicts
  exact ⟨document, hdocument, hverdicts⟩

/-! ## What a run has counted -/

/-- The summary after a run counts the results of the instructions that were sent. -/
theorem counts_of_run (h : empty.Grows document) {fixture : Fixture σ} {state last : σ}
    {outcomes : List Outcome} {document' : Document}
    (hrun : document.run fixture state = some (outcomes, last, document')) :
    resultsOf document.checks outcomes = fixture.verdicts state (questionsOf document.checks)
      ∧ ∀ verdict, document'.summary.countOf verdict
          = (resultsOf document.checks outcomes).count (some verdict) := by
  have hshown := run_shown h fixture state
  rw [hrun, Option.map_some] at hshown
  obtain ⟨tally, htally, hsame⟩ := Option.map_eq_some_iff.mp hshown.symm
  obtain ⟨hresults, -, hsummary⟩ : _ ∧ _ ∧ tally = document'.summary := by
    simpa only [Prod.mk.injEq] using hsame
  refine ⟨hresults.symm, fun verdict => ?_⟩
  rw [← hsummary, ← hresults, Tally.countOf_addAll htally, Tally.countOf_zero, Nat.zero_add]

theorem length_of_run {fixture : Fixture σ} {state last : σ} {outcomes : List Outcome}
    {document' : Document} (hrun : document.run fixture state = some (outcomes, last, document')) :
    outcomes.length = document.checks.length := by
  obtain ⟨⟨_, _, board⟩, hchecks, heq⟩ := Option.map_eq_some_iff.mp hrun
  cases heq
  exact length_runChecks hchecks

/-- **No outcome is lost or counted twice.** A document that comes of its tables can be run exactly
if no verdict is given `2 ^ 32` times. After the run its summary, in the report too, counts each
verdict as often as the instructions that were sent gave it as their result, however deeply the
calls nest; the outcomes of roll-ups and the rows without a verdict count for nothing. -/
theorem summary_counts {tables : List (List (List String))}
    (h : ofTables defaultKind depth tables = some document) (fixture : Fixture σ) (state : σ) :
    ((document.run fixture state).isSome ↔ ∀ verdict,
        (fixture.verdicts state (questionsOf document.checks)).count (some verdict) < UInt32.size)
      ∧ ∀ outcomes last document', document.run fixture state = some (outcomes, last, document') →
          outcomes.length = document.checks.length
            ∧ resultsOf document.checks outcomes
                = fixture.verdicts state (questionsOf document.checks)
            ∧ ∀ verdict, document'.summary.countOf verdict
                  = (resultsOf document.checks outcomes).count (some verdict)
                ∧ ∀ (runId : String) (latency : Nat → UInt64),
                    (Report.ofRun runId latency outcomes document').summary.countOf verdict
                      = (resultsOf document.checks outcomes).count (some verdict) := by
  have hgrows := grows_offerAll h
  refine ⟨⟨?_, run_isSome hgrows fixture state⟩, ?_⟩
  · intro hsome verdict
    obtain ⟨⟨outcomes, last, document'⟩, hrun⟩ := Option.isSome_iff_exists.mp hsome
    obtain ⟨hresults, hcounts⟩ := counts_of_run hgrows hrun
    rw [← hresults, ← hcounts]
    exact Tally.countOf_lt _ _
  · intro outcomes last document' hrun
    obtain ⟨hresults, hcounts⟩ := counts_of_run hgrows hrun
    exact ⟨length_of_run hrun, hresults,
      fun verdict => ⟨hcounts verdict, fun _ _ => hcounts verdict⟩⟩

/-- Of six outcomes in a document with nested calls the four that are no roll-ups are counted. -/
theorem summary_counts_nestedCalls : ∃ document outcomes last document',
    ofTables Script.kindName 2 nestedCalls = some document
      ∧ document.run numbering 0 = some (outcomes, last, document') ∧ outcomes.length = 6
      ∧ resultsOf document.checks outcomes = [some .fail, some .pass, some .fail, some .fail]
      ∧ document'.summary = ⟨1, 3, 0, 0⟩ := by
  obtain ⟨document, hdocument, hverdicts⟩ := verdicts_nestedCalls
  obtain ⟨hsome, hcounts⟩ := summary_counts hdocument numbering 0
  have hroom (verdict : Verdict) :
      (numbering.verdicts 0 (questionsOf document.checks)).count (some verdict) < UInt32.size := by
    rw [hverdicts]
    cases verdict <;> decide
  obtain ⟨⟨outcomes, last, document'⟩, hrun⟩ := Option.isSome_iff_exists.mp (hsome.mpr hroom)
  obtain ⟨hlength, hresults, hsummary⟩ := hcounts outcomes last document' hrun
  rw [hverdicts] at hresults
  have hchecks : (ofTables Script.kindName 2 nestedCalls).map (·.checks.length) = some 6 := by
    decide +kernel
  rw [hdocument, Option.map_some, Option.some_inj] at hchecks
  refine ⟨document, outcomes, last, document', hdocument, hrun, hlength.trans hchecks, hresults, ?_⟩
  apply Tally.eq_of_countOf
  intro verdict
  rw [(hsummary verdict).1, hresults]
  cases verdict <;> rfl

end Document

end ScenarioTables
