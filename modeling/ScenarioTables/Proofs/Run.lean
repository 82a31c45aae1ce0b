import ScenarioTables.Document
import ScenarioTables.Proofs.Ledger
import ScenarioTables.Proofs.Outline
import ScenarioTables.Proofs.Transcript

/-!
# Runs of checks

The checks of a document are run with its fixture side and its board for a world
(`BoardRun.parties`). A run of checks is the run of the first and then of the others
(`runChecks_cons`, `runChecks_append`). A script row reports its verdict in its scope, and a roll-up
closes one account; neither does anything else to the ledger (`perform_row`, `perform_rollUp`).

What a run of proper checks shows apart from its roll-ups follows from the answers of the fixture
side alone (`runChecks_shown`): the fixture side gets the actions in order, each verdict is the
judge's on the answer, and the document's tally counts these verdicts.
-/

set_option autoImplicit false

namespace ScenarioTables

/-- The parties of a document's run. -/
def BoardRun.parties {σ : Type} (fixture : Fixture σ) : Parties (σ × Board) Expectation :=
  ⟨BoardRun.invoke fixture, BoardRun.evaluate⟩

/-- What one check comes to. -/
def performCheck {σ : Type} (fixture : Fixture σ) (check : Check) (state : σ) (board : Board) :
    Option (Outcome × σ × Board) :=
  (check.perform (BoardRun.invoke fixture) BoardRun.evaluate).run (state, board)

/-- The results of a run without those of the roll-ups and of other checks that ask for nothing. -/
def resultsOf (checks : List Check) (outcomes : List Outcome) : List (Option Verdict) :=
  (checks.zip outcomes).filterMap fun (check, outcome) =>
    if check.instruction.isNoop then none else some outcome.verdict

/-- The instruction of a script row with the judge of its reply; a roll-up has no such question. -/
def Check.question? : Check → Option (Instruction × Judge)
  | ⟨instruction, .row judge _ _ _⟩ => some (instruction, judge)
  | _ => none

/-- The questions of some checks. -/
def questionsOf (checks : List Check) : List (Instruction × Judge) :=
  checks.filterMap Check.question?

namespace Fixture

variable {σ : Type}

/-- The answers to some instructions, sent one after another. -/
def answers (fixture : Fixture σ) : σ → List Instruction → List (Except Fault (Option String))
  | _, [] => []
  | state, instruction :: rest =>
    (fixture instruction state).1 :: fixture.answers (fixture instruction state).2 rest

/-- The state of the fixture side after some instructions. -/
def after (fixture : Fixture σ) : σ → List Instruction → σ
  | state, [] => state
  | state, instruction :: rest => fixture.after (fixture instruction state).2 rest

/-- The verdicts on the answers to some questions. -/
def verdicts (fixture : Fixture σ) (state : σ) (questions : List (Instruction × Judge)) :
    List (Option Verdict) :=
  List.zipWith (fun question answer => question.2.verdict? (Reply.ofAnswer answer)) questions
    (fixture.answers state (questions.map Prod.fst))

theorem verdicts_cons (fixture : Fixture σ) (state : σ) (instruction : Instruction) (judge : Judge)
    (rest : List (Instruction × Judge)) :
    fixture.verdicts state ((instruction, judge) :: rest)
      = judge.verdict? (Reply.ofAnswer (fixture instruction state).1)
        :: fixture.verdicts (fixture instruction state).2 rest := rfl

end Fixture

variable {σ : Type} {fixture : Fixture σ} {state : σ} {board : Board}

/-! ## One check -/

theorem performCheck_call (id actor method : String) (arguments : List String)
    (expectation : Expectation) :
    performCheck fixture ⟨.call id actor method arguments, expectation⟩ state board
      = (expectation.evaluate
          (Reply.ofAnswer (fixture (.call id actor method arguments) state).1) board).map
        fun judged => (⟨id, judged.1⟩, (fixture (.call id actor method arguments) state).2,
          judged.2) := by
  refine (Parties.perform_call (BoardRun.parties fixture) id actor method arguments expectation
    (state, board)).trans ?_
  change Option.map _ (Option.map _ _) = _
  rw [Option.map_map]
  rfl

theorem performCheck_noop (id : String) (expectation : Expectation) :
    performCheck fixture ⟨.noop id, expectation⟩ state board
      = (expectation.evaluate .void board).map fun judged => (⟨id, judged.1⟩, state, judged.2) := by
  refine (Parties.perform_noop (BoardRun.parties fixture) id expectation (state, board)).trans ?_
  change Option.map _ (Option.map _ _) = _
  rw [Option.map_map]
  rfl

/-- A row without a verdict leaves the board alone. -/
theorem evaluateRow_of_none {judge : Judge} {reply : Reply} (h : judge.verdict? reply = none)
    (table : Address) (row : Nat) (scope : Scope) :
    Expectation.evaluateRow judge table row scope reply board = some (none, board) := by
  rw [Expectation.evaluateRow, h]

/-- A row with a verdict marks itself and reports in its scope. -/
theorem evaluateRow_of_some {judge : Judge} {reply : Reply} {verdict : Verdict}
    (h : judge.verdict? reply = some verdict) (table : Address) (row : Nat) (scope : Scope) :
    Expectation.evaluateRow judge table row scope reply board
      = (board.ledger.report scope verdict).map fun ledger =>
          (some verdict, { board with ledger := ledger }.mark table row verdict) := by
  rw [Expectation.evaluateRow, h]

/-- A row reports its verdict in its scope, if it has one, and changes nothing else in the ledger. -/
theorem perform_row (hbounded : board.ledger.Bounded) {scope : Scope} (hscope : scope.Nodup)
    {id actor method : String} {arguments : List String} {judge : Judge} {table : Address} {row : Nat}
    {outcome : Outcome} {state' : σ} {board' : Board}
    (h : performCheck fixture ⟨.call id actor method arguments, .row judge table row scope⟩ state
      board = some (outcome, state', board')) :
    (outcome.verdict = none ∧ board'.ledger = board.ledger) ∨
      ∃ verdict document, outcome.verdict = some verdict
        ∧ board.ledger.document.add verdict = some document
        ∧ board'.ledger = board.ledger.reported scope verdict document := by
  rw [performCheck_call] at h
  obtain ⟨⟨given, reached⟩, hgiven, heq⟩ := Option.map_eq_some_iff.mp h
  cases heq
  rw [Expectation.evaluate] at hgiven
  cases hverdict : judge.verdict?
      (Reply.ofAnswer (fixture (.call id actor method arguments) state).1) with
  | none =>
    rw [evaluateRow_of_none hverdict] at hgiven
    cases hgiven
    exact Or.inl ⟨rfl, rfl⟩
  | some verdict =>
    rw [evaluateRow_of_some hverdict] at hgiven
    obtain ⟨ledger, hledger, heq⟩ := Option.map_eq_some_iff.mp hgiven
    cases heq
    cases hadd : board.ledger.document.add verdict with
    | none =>
      rw [Ledger.report_eq_none hadd] at hledger
      cases hledger
    | some document =>
      rw [Ledger.report_eq hbounded hscope hadd] at hledger
      cases hledger
      exact Or.inr ⟨verdict, document, rfl, hadd, rfl⟩

/-- A roll-up reads the verdict of its call and closes the account. It has no verdict of its own
where the scenario has outputs and the call passed; otherwise it marks the calling row. -/
theorem evaluateRollUp_eq (scope : Scope) (table : Option Address) (row : Nat)
    (declaresOutputs : Bool) (board : Board) :
    Expectation.evaluateRollUp scope table row declaresOutputs board
      = if declaresOutputs ∧ (board.ledger.tallyOf scope).verdict = .pass then
          (none, { board with ledger := board.ledger.close scope })
        else
          (some (board.ledger.tallyOf scope).verdict,
            (table.map fun address => Board.mark { board with ledger := board.ledger.close scope }
              address row (board.ledger.tallyOf scope).verdict).getD
              { board with ledger := board.ledger.close scope }) := by
  cases table <;> rfl

/-- A roll-up reads the verdict of its scope and closes the account; its outcome is missing only
when there are outputs to hand out and everything passed. -/
theorem perform_rollUp {id : String} {scope : Scope} {table : Option Address} {row : Nat}
    {declaresOutputs : Bool} {outcome : Outcome} {state' : σ} {board' : Board}
    (h : performCheck fixture ⟨.noop id, .rollUp scope table row declaresOutputs⟩ state board
      = some (outcome, state', board')) :
    state' = state ∧ board'.ledger = board.ledger.close scope
      ∧ outcome = ⟨id, if declaresOutputs ∧ (board.ledger.tallyOf scope).verdict = .pass then none
          else some (board.ledger.tallyOf scope).verdict⟩ := by
  rw [performCheck_noop] at h
  rw [Expectation.evaluate, evaluateRollUp_eq] at h
  split at h
  next hsilent =>
    cases h
    exact ⟨rfl, rfl, congrArg (Outcome.mk id) (if_pos hsilent).symm⟩
  next hloud =>
    cases h
    refine ⟨rfl, ?_, congrArg (Outcome.mk id) (if_neg hloud).symm⟩
    cases table <;> rfl

/-- No check lets an account overtake the document. -/
theorem perform_bounded {check : Check} (hproper : check.Proper) (hbounded : board.ledger.Bounded)
    {outcome : Outcome} {state' : σ} {board' : Board}
    (h : performCheck fixture check state board = some (outcome, state', board')) :
    board'.ledger.Bounded := by
  cases hproper with
  | row hscope =>
    rcases perform_row hbounded hscope h with ⟨-, hledger⟩ | ⟨_, _, -, hadd, hledger⟩
    · rw [hledger]
      exact hbounded
    · rw [hledger]
      exact hbounded.reported hadd _
  | rollUp _ =>
    rw [(perform_rollUp h).2.1]
    exact hbounded.close _

/-! ## Several checks -/

theorem runChecks_cons (check : Check) (rest : List Check) :
    runChecks fixture (check :: rest) state board
      = (performCheck fixture check state board).bind fun first =>
          (runChecks fixture rest first.2.1 first.2.2).map fun reached =>
            (first.1 :: reached.1, reached.2) :=
  Parties.run_cons (BoardRun.parties fixture) check rest (state, board)

/-- A run of one check more is that check and then the run. -/
theorem runChecks_cons_eq_some {check : Check} {rest : List Check} {outcomes : List Outcome}
    {state' : σ} {board' : Board} :
    runChecks fixture (check :: rest) state board = some (outcomes, state', board') ↔
      ∃ outcome inner middle later, performCheck fixture check state board
          = some (outcome, inner, middle)
        ∧ runChecks fixture rest inner middle = some (later, state', board')
        ∧ outcomes = outcome :: later := by
  rw [runChecks_cons, Option.bind_eq_some_iff]
  constructor
  · rintro ⟨⟨outcome, inner, middle⟩, hfirst, hrest⟩
    obtain ⟨⟨later, reached⟩, hlater, heq⟩ := Option.map_eq_some_iff.mp hrest
    cases heq
    exact ⟨outcome, inner, middle, later, hfirst, hlater, rfl⟩
  · rintro ⟨outcome, inner, middle, later, hfirst, hlater, rfl⟩
    exact ⟨_, hfirst, Option.map_eq_some_iff.mpr ⟨_, hlater, rfl⟩⟩

/-- A run of two parts is the run of the first and then of the second. -/
theorem runChecks_append {first second : List Check} {outcomes : List Outcome} {state' : σ}
    {board' : Board}
    (h : runChecks fixture (first ++ second) state board = some (outcomes, state', board')) :
    ∃ earlier inner middle later, runChecks fixture first state board
        = some (earlier, inner, middle)
      ∧ runChecks fixture second inner middle = some (later, state', board')
      ∧ outcomes = earlier ++ later := by
  induction first generalizing state board outcomes with
  | nil => exact ⟨[], state, board, outcomes, rfl, h, rfl⟩
  | cons check first ih =>
    obtain ⟨outcome, inner, middle, later, hcheck, hrest, rfl⟩ := runChecks_cons_eq_some.mp h
    obtain ⟨earlier, inner', middle', later', hearlier, hlater, rfl⟩ := ih hrest
    exact ⟨outcome :: earlier, inner', middle', later',
      runChecks_cons_eq_some.mpr ⟨outcome, inner, middle, earlier, hcheck, hearlier, rfl⟩,
      hlater, rfl⟩

/-- A run answers once for each check. -/
theorem length_runChecks {checks : List Check} {outcomes : List Outcome} {state' : σ}
    {board' : Board} (h : runChecks fixture checks state board = some (outcomes, state', board')) :
    outcomes.length = checks.length := by
  induction checks generalizing state board outcomes with
  | nil => cases h; rfl
  | cons check checks ih =>
    obtain ⟨outcome, inner, middle, later, _, hrest, rfl⟩ := runChecks_cons_eq_some.mp h
    simp only [List.length_cons, ih hrest]

/-- However long a run, no account has counted more than the document after it. -/
theorem runChecks_bounded {checks : List Check} (hproper : ∀ check ∈ checks, check.Proper)
    (hbounded : board.ledger.Bounded) {outcomes : List Outcome} {state' : σ} {board' : Board}
    (h : runChecks fixture checks state board = some (outcomes, state', board')) :
    board'.ledger.Bounded := by
  induction checks generalizing state board outcomes with
  | nil => cases h; exact hbounded
  | cons check checks ih =>
    obtain ⟨outcome, inner, middle, later, hcheck, hrest, rfl⟩ := runChecks_cons_eq_some.mp h
    refine ih (fun other hother => hproper other (List.mem_cons_of_mem _ hother)) ?_ hrest
    exact perform_bounded (hproper check List.mem_cons_self) hbounded hcheck

/-! ## What a run shows -/

/-- A row gets the judge's verdict on the answer, unless the document has no room for it. -/
theorem performCheck_row (hbounded : board.ledger.Bounded) {scope : Scope} (hscope : scope.Nodup)
    (id actor method : String) (arguments : List String) (judge : Judge) (table : Address)
    (row : Nat) :
    let answered := fixture (.call id actor method arguments) state
    let verdict := judge.verdict? (Reply.ofAnswer answered.1)
    (performCheck fixture ⟨.call id actor method arguments, .row judge table row scope⟩ state
        board = none ∧ board.ledger.document.addAll [verdict] = none) ∨
      ∃ board', performCheck fixture ⟨.call id actor method arguments, .row judge table row scope⟩
          state board = some (⟨id, verdict⟩, answered.2, board')
        ∧ board.ledger.document.addAll [verdict] = some board'.ledger.document := by
  intro answered verdict
  rw [performCheck_call, Expectation.evaluate]
  cases hverdict : judge.verdict? (Reply.ofAnswer answered.1) with
  | none =>
    rw [evaluateRow_of_none hverdict]
    refine Or.inr ⟨board, ?_, ?_⟩
    · rw [Option.map_some, show verdict = none from hverdict]
    · rw [show verdict = none from hverdict]
      rfl
  | some given =>
    rw [evaluateRow_of_some hverdict, show verdict = some given from hverdict]
    cases hadd : board.ledger.document.add given with
    | none =>
      rw [Ledger.report_eq_none hadd]
      refine Or.inl ⟨rfl, ?_⟩
      rw [Tally.addAll, hadd, Option.bind_none]
    | some document =>
      rw [Ledger.report_eq hbounded hscope hadd]
      refine Or.inr ⟨_, rfl, ?_⟩
      rw [Tally.addAll, hadd, Option.bind_some]
      rfl

theorem Tally.addAll_cons (tally : Tally) (first : Option Verdict) (rest : List (Option Verdict)) :
    tally.addAll (first :: rest) = (tally.addAll [first]).bind (·.addAll rest) := by
  cases first with
  | none => rfl
  | some verdict => rw [Tally.addAll, Tally.addAll]; cases tally.add verdict <;> rfl

/-- What a run of proper checks shows is what the fixture side makes of their questions. -/
theorem runChecks_shown {checks : List Check} (hproper : ∀ check ∈ checks, check.Proper)
    (hbounded : board.ledger.Bounded) :
    ((runChecks fixture checks state board).map fun reached =>
        (resultsOf checks reached.1, reached.2.1, reached.2.2.ledger.document))
      = (board.ledger.document.addAll (fixture.verdicts state (questionsOf checks))).map fun tally =>
          (fixture.verdicts state (questionsOf checks),
            fixture.after state ((questionsOf checks).map Prod.fst), tally) := by
  induction checks generalizing state board with
  | nil => rfl
  | cons check checks ih =>
    have hrest : ∀ other ∈ checks, other.Proper :=
      fun other hother => hproper other (List.mem_cons_of_mem _ hother)
    rw [runChecks_cons]
    cases hproper check List.mem_cons_self with
    | @row id actor method arguments judge table row scope hscope =>
      have hquestions : questionsOf (⟨.call id actor method arguments,
            .row judge table row scope⟩ :: checks)
          = (.call id actor method arguments, judge) :: questionsOf checks := rfl
      rw [hquestions, Fixture.verdicts_cons, Tally.addAll_cons]
      rcases performCheck_row hbounded hscope id actor method arguments judge table row with
        ⟨hstop, hfull⟩ | ⟨board', hcheck, hsum⟩
      · rw [hstop, hfull]
        rfl
      · rw [hcheck, hsum, Option.bind_some, Option.bind_some]
        have hnext := congrArg (Option.map fun shown : List (Option Verdict) × σ × Tally =>
            (judge.verdict? (Reply.ofAnswer
              (fixture (.call id actor method arguments) state).1) :: shown.1, shown.2))
          (@ih (fixture (.call id actor method arguments) state).2 board' hrest
            (perform_bounded (.row hscope) hbounded hcheck))
        rw [Option.map_map, Option.map_map] at hnext
        rw [Option.map_map]
        exact hnext
    | @rollUp id scope table row declaresOutputs hscope =>
      have hquestions : questionsOf (⟨.noop id, .rollUp scope table row declaresOutputs⟩ :: checks)
          = questionsOf checks := rfl
      -- A roll-up asks nothing, is counted nowhere and leaves the fixture side as it is.
      obtain ⟨⟨outcome, state', board'⟩, hcheck⟩ : ∃ reached, performCheck fixture
          ⟨.noop id, .rollUp scope table row declaresOutputs⟩ state board = some reached :=
        ⟨_, performCheck_noop id _⟩
      obtain ⟨rfl, hledger, -⟩ := perform_rollUp hcheck
      have hnext := @ih state' board' hrest (perform_bounded (.rollUp hscope) hbounded hcheck)
      rw [hledger, Ledger.close_document] at hnext
      rw [hquestions, hcheck, Option.bind_some, Option.map_map]
      exact hnext

end ScenarioTables
