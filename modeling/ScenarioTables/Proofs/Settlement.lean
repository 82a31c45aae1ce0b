import ScenarioTables.Proofs.Calls
import ScenarioTables.Proofs.Inlining
import ScenarioTables.Proofs.Marks

/-!
# What a run comes to

The outcomes of a script follow from its outline and from the results of its actions, in their
order: an action has its own result, and the roll-up of a call the gravest of the results below it
(`Outline.settled`). Nothing else has a part in it. So a run of the assertions of an outline comes to
the same wherever the script stands on the board and whatever was counted before, as long as the
accounts of its calls are new (`Outline.verdicts_runChecks`), and with the outcomes the table of the
script is known as well (`Outline.tables_runChecks`).

The results themselves are the judged answers of the fixture side (`results_of_run`), which can
depend on everything it was asked before.
-/

set_option autoImplicit false

namespace ScenarioTables

/-! ## Answers to a list of questions -/

namespace Fixture

variable {σ : Type} (fixture : Fixture σ)

theorem verdicts_append (state : σ) (first second : List (Instruction × Judge)) :
    fixture.verdicts state (first ++ second) = fixture.verdicts state first
      ++ fixture.verdicts (fixture.after state (first.map Prod.fst)) second := by
  induction first generalizing state with
  | nil => rfl
  | cons question first ih =>
    rw [List.cons_append, verdicts_cons, verdicts_cons, ih, List.cons_append]
    rfl

theorem length_verdicts (state : σ) (questions : List (Instruction × Judge)) :
    (fixture.verdicts state questions).length = questions.length := by
  induction questions generalizing state with
  | nil => rfl
  | cons question questions ih => rw [verdicts_cons, List.length_cons, ih, List.length_cons]

end Fixture

variable {σ : Type} {fixture : Fixture σ} {state state' : σ} {board board' : Board}
  {outcomes : List Outcome}

/-- The results of a run are the judged answers to its questions, and the fixture side is left as
these questions leave it. -/
theorem results_of_run {checks : List Check} (hproper : ∀ check ∈ checks, check.Proper)
    (hbounded : board.ledger.Bounded)
    (h : runChecks fixture checks state board = some (outcomes, state', board')) :
    resultsOf checks outcomes = fixture.verdicts state (questionsOf checks)
      ∧ state' = fixture.after state ((questionsOf checks).map Prod.fst) := by
  have hshown := @runChecks_shown σ fixture state board checks hproper hbounded
  rw [h, Option.map_some] at hshown
  obtain ⟨tally, -, hsame⟩ := Option.map_eq_some_iff.mp hshown.symm
  simp only [Prod.mk.injEq] at hsame
  exact ⟨hsame.1.symm, hsame.2.1.symm⟩

/-- The outcome of a row is the judged answer to it. -/
theorem verdict_perform_row (hbounded : board.ledger.Bounded) {scope : Scope} (hscope : scope.Nodup)
    {id actor method : String} {arguments : List String} {judge : Judge} {table : Address} {row : Nat}
    {outcome : Outcome}
    (h : performCheck fixture ⟨.call id actor method arguments, .row judge table row scope⟩ state
      board = some (outcome, state', board')) :
    outcome.verdict
        = judge.verdict? (Reply.ofAnswer (fixture (.call id actor method arguments) state).1)
      ∧ state' = (fixture (.call id actor method arguments) state).2 := by
  rcases performCheck_row hbounded hscope id actor method arguments judge table row with
    ⟨hstop, -⟩ | ⟨reached, hcheck, -⟩
  · cases hstop.symm.trans h
  · cases hcheck.symm.trans h
    exact ⟨rfl, rfl⟩

/-! ## The outcomes of an outline -/

/-- The outcome of a call with the given results: the gravest of them, or none if the scenario hands
out values and that is a pass. -/
def Scenario.closing (scenario : Scenario) (results : List (Option Verdict)) : Option Verdict :=
  if scenario.declaresOutputs ∧ Verdict.gravest results = .pass then none
  else some (Verdict.gravest results)

namespace Outline

/-- The outcomes of the assertions of rows whose actions have the given results. -/
def settled : Outline → List (Option Verdict) → List (Option Verdict)
  | .done, _ => []
  | .note _ rest, results => rest.settled results
  | .action _ _ _ rest, results => results.head?.join :: rest.settled results.tail
  | .call scenario _ body rest, results =>
    body.settled (results.take body.asks.length)
      ++ scenario.closing (results.take body.asks.length)
        :: rest.settled (results.drop body.asks.length)

theorem length_questions (outline : Outline) (place : Place) :
    (questionsOf (outline.checks place)).length = outline.asks.length := by
  rw [← outline.asksOf_checks place, asksOf, List.length_map]

/-- The results of a call stand before those of the rows behind it. -/
theorem settled_call (scenario : Scenario) (rows : List (List String)) (body rest : Outline)
    {inner : List (Option Verdict)} (hinner : inner.length = body.asks.length)
    (later : List (Option Verdict)) :
    (Outline.call scenario rows body rest).settled (inner ++ later)
      = body.settled inner ++ scenario.closing inner :: rest.settled later := by
  rw [settled, List.take_left' hinner, List.drop_left' hinner]

/-- A roll-up asks nothing. -/
theorem questionsOf_call (scenario : Scenario) (rows : List (List String)) (body rest : Outline)
    (place : Place) : questionsOf ((Outline.call scenario rows body rest).checks place)
      = questionsOf (body.checks (place.inside scenario rows))
        ++ questionsOf (rest.checks (place.behindCall body.callCount)) := by
  rw [checks, questionsOf_append, questionsOf_append]
  exact congrArg (· ++ _) (List.append_nil _)

/-! ## Accounts that are new -/

/-- The accounts that a reading opens have counted nothing yet. -/
def Untouched (outline : Outline) (place : Place) (board : Board) : Prop :=
  ∀ number, place.account ≤ number → number < place.account + outline.callCount →
    board.ledger.calls[number]? = some ⟨.zero, false⟩

section

variable {place : Place} {cells parts : List String} {judge : Judge} {scenario : Scenario}
  {rows : List (List String)} {body rest : Outline}

theorem proper_of_mem_checks {outline : Outline} (hplace : place.Sound) :
    ∀ check ∈ outline.checks place, check.Proper :=
  fun check hcheck => (within_of_mem_checks hplace check hcheck).proper

/-- The block of a call is the beginning of the assertions that the call stands before. -/
theorem proper_of_mem_block (hplace : place.Sound) :
    ∀ check ∈ place.block scenario rows body, check.Proper :=
  fun check hcheck => @proper_of_mem_checks place (.call scenario rows body .done) hplace check
    (List.mem_append_left _ hcheck)

theorem Untouched.behindAction (h : (Outline.action cells judge parts rest).Untouched place board)
    (hplace : place.Sound) {check : Check} (hproper : check.Proper) (hbounded : board.ledger.Bounded)
    (hscope : check.expectation.scope = place.assignment.scope) {outcome : Outcome}
    (hcheck : performCheck fixture check state board = some (outcome, state', board')) :
    rest.Untouched place.behindAction board' := by
  intro number hge hlt
  rw [getElem?_perform hproper hbounded (hscope ▸ hplace.not_mem_scope hge) hcheck]
  exact h number hge hlt

/-- The account of an untouched call is open and has counted nothing. -/
theorem Untouched.account (h : (Outline.call scenario rows body rest).Untouched place board) :
    board.ledger.calls[place.account]? = some ⟨.zero, false⟩ :=
  h place.account (Nat.le_refl _) (by simp only [callCount]; omega)

/-- In an untouched call the calls of its body are untouched. -/
theorem Untouched.inside (h : (Outline.call scenario rows body rest).Untouched place board) :
    body.Untouched (place.inside scenario rows) board := by
  intro number hge hlt
  refine h number (Nat.le_of_succ_le hge) ?_
  simp only [Place.inside, callCount] at hlt ⊢
  omega

/-- A call reports in its own accounts and around them, not in those of the calls behind it. -/
theorem Untouched.behindCall (h : (Outline.call scenario rows body rest).Untouched place board)
    (hplace : place.Sound) (hbounded : board.ledger.Bounded)
    (hrun : runChecks fixture (place.block scenario rows body) state board
      = some (outcomes, state', board')) :
    rest.Untouched (place.behindCall body.callCount) board' := by
  intro number hge hlt
  rw [getElem?_runChecks (proper_of_mem_block hplace) hbounded (hplace.outside_block hge) hrun]
  simp only [Place.behindCall] at hge hlt
  exact h number (by omega) (by simp only [callCount]; omega)

end

/-! ## The outcomes of a run -/

/-- **A run comes to what its results settle**, wherever it takes place. -/
theorem verdicts_runChecks {outline : Outline} {place : Place} (hplace : place.Sound)
    (hbounded : board.ledger.Bounded) (huntouched : outline.Untouched place board)
    (h : runChecks fixture (outline.checks place) state board = some (outcomes, state', board')) :
    outcomes.map (·.verdict)
      = outline.settled (fixture.verdicts state (questionsOf (outline.checks place))) := by
  induction outline generalizing place state state' board board' outcomes with
  | done =>
    cases h
    rfl
  | note cells rest ih => exact ih hplace.behindNote hbounded huntouched h
  | action cells judge parts rest ih =>
    obtain ⟨outcome, inner, middle, later, hcheck, hrest, rfl⟩ := runChecks_cons_eq_some.mp h
    have hproper : (Script.actionCheck place.assignment place.row place.number judge parts).Proper :=
      @proper_of_mem_checks place (.action cells judge parts rest) hplace _ List.mem_cons_self
    have hscope : place.assignment.scope.Nodup := by
      cases hproper with
      | row hscope => exact hscope
    have hlater := ih hplace.behindAction (perform_bounded hproper hbounded hcheck)
      (huntouched.behindAction hplace hproper hbounded rfl hcheck) hrest
    obtain ⟨hverdict, rfl⟩ := verdict_perform_row hbounded hscope hcheck
    rw [List.map_cons, hverdict, hlater]
    rfl
  | call scenario rows body rest ihbody ihrest =>
    -- Three parts: the body in the account of the call, the roll-up, and the rows behind.
    obtain ⟨block, reached, middle, later, hblock, hrest, rfl⟩ := runChecks_append h
    obtain ⟨inner, inside, closing, ending, hbody, hrollUp, rfl⟩ := runChecks_append hblock
    obtain ⟨outcome, _, _, _, hcheck, hnil, rfl⟩ := runChecks_cons_eq_some.mp hrollUp
    cases hnil
    have hproper := @proper_of_mem_checks _ body (hplace.inside scenario rows)
    have hinner := ihbody (hplace.inside scenario rows) hbounded huntouched.inside hbody
    have hlater := ihrest (hplace.behindCall body.callCount)
      (runChecks_bounded (proper_of_mem_block hplace) hbounded hblock)
      (huntouched.behindCall hplace hbounded hblock) hrest
    obtain ⟨hresults, rfl⟩ := results_of_run hproper hbounded hbody
    obtain ⟨rfl, -, -⟩ := perform_rollUp hcheck
    have hclosing : outcome.verdict = scenario.closing (resultsOf _ inner) := congrArg
      Outcome.verdict (perform_rollUp_gravest hproper hbounded
        (fun _ hmem => (hplace.inside_body hmem).1) (fun _ hmem => (hplace.inside_body hmem).2)
        huntouched.account hbody hcheck)
    have hlength := (fixture.length_verdicts state _).trans
      (body.length_questions (place.inside scenario rows))
    rw [questionsOf_call, Fixture.verdicts_append, settled_call _ _ _ _ hlength, List.map_append,
      List.map_append, hinner, hlater, List.map_singleton, hclosing, hresults, List.append_assoc]
    rfl

end Outline

end ScenarioTables
