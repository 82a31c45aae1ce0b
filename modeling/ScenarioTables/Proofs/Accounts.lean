import ScenarioTables.Proofs.Run

/-!
# One account during a run

Seen from one account of the ledger, a run of checks does one of two things. Checks outside the
account leave it alone (`getElem?_runChecks`). Checks inside it that do not close it are counted in
it, each verdict once, while roll-ups of calls further inwards change nothing (`counts_runChecks`).
So the roll-up behind such checks reads the gravest of their results (`perform_rollUp_gravest`).
-/

set_option autoImplicit false

namespace ScenarioTables

variable {σ : Type} {fixture : Fixture σ} {state state' : σ} {board board' : Board} {number : Nat}

/-- A check outside an account leaves it alone. -/
theorem getElem?_perform {check : Check} (hproper : check.Proper) (hbounded : board.ledger.Bounded)
    (houtside : number ∉ check.expectation.scope) {outcome : Outcome}
    (h : performCheck fixture check state board = some (outcome, state', board')) :
    board'.ledger.calls[number]? = board.ledger.calls[number]? := by
  cases hproper with
  | @row id actor method arguments judge table row scope hscope =>
    rcases perform_row hbounded hscope h with ⟨-, hledger⟩ | ⟨verdict, document, -, -, hledger⟩
    · rw [hledger]
    · rw [hledger, Ledger.getElem?_reported]
      simp only [Expectation.scope] at houtside
      simp only [if_neg houtside, Option.map_id']
  | @rollUp id scope table row declaresOutputs hscope =>
    rw [(perform_rollUp h).2.1]
    cases scope with
    | nil => rfl
    | cons closed outer =>
      have hother : closed ≠ number := fun heq => houtside (heq ▸ List.mem_cons_self)
      rw [Ledger.getElem?_close]
      simp only [if_neg hother, Option.map_id']

/-- An open account with some tally counts these results on top of what it counted before. -/
def Ledger.Counts (ledger : Ledger) (number : Nat) (tally : Tally)
    (results : List (Option Verdict)) : Prop :=
  ∃ sum, ledger.calls[number]? = some ⟨sum, false⟩
    ∧ ∀ verdict, sum.countOf verdict = tally.countOf verdict + results.count (some verdict)

/-- A check inside an account that does not close it is counted in it. -/
theorem counts_perform {check : Check} (hproper : check.Proper) (hbounded : board.ledger.Bounded)
    (hinside : number ∈ check.expectation.scope) (hopen : check.closes? ≠ some number)
    {tally : Tally} (hbefore : board.ledger.calls[number]? = some ⟨tally, false⟩)
    {outcome : Outcome}
    (h : performCheck fixture check state board = some (outcome, state', board')) :
    board'.ledger.Counts number tally (resultsOf [check] [outcome]) := by
  cases hproper with
  | @row id actor method arguments judge table row scope hscope =>
    have hresults : resultsOf [⟨.call id actor method arguments, .row judge table row scope⟩]
        [outcome] = [outcome.verdict] := rfl
    rw [hresults]
    rcases perform_row hbounded hscope h with
      ⟨hnone, hledger⟩ | ⟨verdict, document, hsome, hadd, hledger⟩
    · rw [hledger, hnone]
      exact ⟨tally, hbefore, fun verdict => rfl⟩
    · obtain ⟨sum, hsum⟩ := (Tally.adds_add verdict).of_le hadd
        (hbounded ⟨tally, false⟩ (List.mem_of_getElem? hbefore))
      refine ⟨sum, ?_, ?_⟩
      · rw [hledger, Ledger.getElem?_reported, hbefore, Option.map_some]
        simp only [Expectation.scope] at hinside
        simp only [if_pos hinside, CallAccount.count, CallAccount.changed, Bool.false_eq_true, if_false, hsum,
          Option.getD_some]
      · intro other
        rw [Tally.countOf_add hsum other, hsome]
        simp only [List.count_singleton, beq_iff_eq, Option.some.injEq, eq_comm (a := verdict)]
  | @rollUp id scope table row declaresOutputs hscope =>
    have hresults : resultsOf [⟨.noop id, .rollUp scope table row declaresOutputs⟩] [outcome]
        = [] := rfl
    rw [hresults, Ledger.Counts, (perform_rollUp h).2.1]
    cases scope with
    | nil => exact absurd hinside List.not_mem_nil
    | cons closed outer =>
      have hother : closed ≠ number := fun heq => hopen (congrArg some heq)
      refine ⟨tally, ?_, fun verdict => rfl⟩
      rw [Ledger.getElem?_close, hbefore]
      simp only [if_neg hother, Option.map_some]

theorem resultsOf_cons (check : Check) (checks : List Check) (outcome : Outcome)
    (outcomes : List Outcome) : resultsOf (check :: checks) (outcome :: outcomes)
      = resultsOf [check] [outcome] ++ resultsOf checks outcomes := by
  simp only [resultsOf, List.zip_cons_cons, List.filterMap_cons, List.zip_nil_right,
    List.filterMap_nil]
  cases check.instruction.isNoop <;> rfl

/-- Checks outside an account leave it alone. -/
theorem getElem?_runChecks {checks : List Check} (hproper : ∀ check ∈ checks, check.Proper)
    (hbounded : board.ledger.Bounded) (houtside : ∀ check ∈ checks, number ∉ check.expectation.scope)
    {outcomes : List Outcome}
    (h : runChecks fixture checks state board = some (outcomes, state', board')) :
    board'.ledger.calls[number]? = board.ledger.calls[number]? := by
  induction checks generalizing state board outcomes with
  | nil => cases h; rfl
  | cons check checks ih =>
    obtain ⟨outcome, inner, middle, later, hcheck, hrest, rfl⟩ := runChecks_cons_eq_some.mp h
    have hhead := hproper check List.mem_cons_self
    rw [ih (fun other hother => hproper other (List.mem_cons_of_mem _ hother))
      (perform_bounded hhead hbounded hcheck)
      (fun other hother => houtside other (List.mem_cons_of_mem _ hother)) hrest]
    exact getElem?_perform hhead hbounded (houtside check List.mem_cons_self) hcheck

/-- Checks inside an account that do not close it are counted in it. -/
theorem counts_runChecks {checks : List Check} (hproper : ∀ check ∈ checks, check.Proper)
    (hbounded : board.ledger.Bounded) (hinside : ∀ check ∈ checks, number ∈ check.expectation.scope)
    (hopen : ∀ check ∈ checks, check.closes? ≠ some number) {tally : Tally}
    (hbefore : board.ledger.calls[number]? = some ⟨tally, false⟩) {outcomes : List Outcome}
    (h : runChecks fixture checks state board = some (outcomes, state', board')) :
    board'.ledger.Counts number tally (resultsOf checks outcomes) := by
  induction checks generalizing state board tally outcomes with
  | nil => cases h; exact ⟨tally, hbefore, fun verdict => rfl⟩
  | cons check checks ih =>
    obtain ⟨outcome, inner, middle, later, hcheck, hrest, rfl⟩ := runChecks_cons_eq_some.mp h
    have hhead := hproper check List.mem_cons_self
    obtain ⟨sum, hsum, hfirst⟩ := counts_perform hhead hbounded
      (hinside check List.mem_cons_self) (hopen check List.mem_cons_self) hbefore hcheck
    obtain ⟨total, htotal, hlater⟩ := ih
      (fun other hother => hproper other (List.mem_cons_of_mem _ hother))
      (perform_bounded hhead hbounded hcheck)
      (fun other hother => hinside other (List.mem_cons_of_mem _ hother))
      (fun other hother => hopen other (List.mem_cons_of_mem _ hother)) hsum hrest
    refine ⟨total, htotal, fun verdict => ?_⟩
    rw [hlater, hfirst, resultsOf_cons check checks, List.count_append, Nat.add_assoc]

/-- The roll-up of an account that was fresh reads the gravest of what was counted in it. -/
theorem perform_rollUp_gravest {checks : List Check} (hproper : ∀ check ∈ checks, check.Proper)
    (hbounded : board.ledger.Bounded) (hinside : ∀ check ∈ checks, number ∈ check.expectation.scope)
    (hopen : ∀ check ∈ checks, check.closes? ≠ some number)
    (hfresh : board.ledger.calls[number]? = some ⟨.zero, false⟩) {outcomes : List Outcome}
    (h : runChecks fixture checks state board = some (outcomes, state', board')) {id : String}
    {outer : Scope} {table : Option Address} {row : Nat} {declaresOutputs : Bool} {outcome : Outcome}
    {last : σ} {closed : Board}
    (hrollUp : performCheck fixture ⟨.noop id, .rollUp (number :: outer) table row declaresOutputs⟩
      state' board' = some (outcome, last, closed)) :
    outcome = ⟨id, if declaresOutputs ∧ Verdict.gravest (resultsOf checks outcomes) = .pass then none
      else some (Verdict.gravest (resultsOf checks outcomes))⟩ := by
  obtain ⟨tally, htally, hcounts⟩ := counts_runChecks hproper hbounded hinside hopen hfresh h
  have hverdict : (board'.ledger.tallyOf (number :: outer)).verdict
      = Verdict.gravest (resultsOf checks outcomes) := by
    simp only [Ledger.tallyOf, htally, Option.map_some, Option.getD_some]
    apply Tally.verdict_eq_gravest
    intro verdict
    rw [hcounts, Tally.countOf_zero, Nat.zero_add]
  rw [(perform_rollUp hrollUp).2.2, hverdict]

end ScenarioTables
