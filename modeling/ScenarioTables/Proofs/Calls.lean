import ScenarioTables.Proofs.Accounts
import ScenarioTables.Proofs.Document

/-!
# The calls of a document and their verdicts

`Script.Makes` lists the calls that reading a script makes, nested calls included, each with the
board on which it is made; `Document.Makes` lists those of a document. The assertions of a call are
one block of the document's and end with the roll-up (`Script.Makes.block`). The call's account is
touched by no assertion before the block, and inside by every one, so the roll-up reads the gravest
result of the block (`rollUp_gravest`).
-/

set_option autoImplicit false

namespace ScenarioTables

/-- A call of a scenario, as it is made while assertions are built. -/
structure Call where
  /-- What calls are made with. -/
  setting : Setting
  /-- How deeply calls may nest, this one included. -/
  depth : Nat
  /-- The called scenario. -/
  scenario : Scenario
  /-- The arguments of the call. -/
  binding : Binding
  /-- Where the call stands. -/
  site : CallSite
  /-- The board at the time of the call. -/
  board : Board

/-- What a call answers on its board: its assertions, or why they could not be built. -/
def Call.answer (call : Call) : Except Stop (List Check) :=
  (call.scenario.call call.setting call.depth call.binding call.site call.board).1

/-- The calls made while the rows of a script are read from a row on. The body of a call is read on
the board that the call has opened, and the rows behind it on the board that the call leaves. -/
inductive Script.Makes (setting : Setting) :
    Nat → Assignment → Nat → List (List String) → Board → Call → Prop
  | here {depth row : Nat} {assignment : Assignment} {cells arguments : List String}
      {rest : List (List String)} {scenario : Scenario} {board : Board} :
      Row.ofCells setting.scenarios cells = .call scenario arguments →
      Makes setting depth assignment row (cells :: rest) board
        ⟨setting, depth, scenario, scenario.bindPositional arguments, siteOf assignment row, board⟩
  | inside {depth row : Nat} {assignment : Assignment} {cells arguments : List String}
      {rows rest : List (List String)} {scenario : Scenario} {board : Board} {call : Call} :
      Row.ofCells setting.scenarios cells = .call scenario arguments →
      scenario.expand (scenario.bindPositional arguments) = .ok rows →
      Makes setting depth (scenario.bodyAssignment setting (siteOf assignment row) rows board) 1
        rows.tail (board.opened (siteOf assignment row) (Table.ofRows rows)) call →
      Makes setting (depth + 1) assignment row (cells :: rest) board call
  | behindNote {depth row : Nat} {assignment : Assignment} {cells : List String}
      {rest : List (List String)} {board : Board} {call : Call} :
      Row.ofCells setting.scenarios cells = .note →
      Makes setting depth assignment (row + 1) rest board call →
      Makes setting depth assignment row (cells :: rest) board call
  | behindAction {depth row : Nat} {assignment : Assignment} {cells parts : List String}
      {judge : Judge} {rest : List (List String)} {board : Board} {call : Call} :
      Row.ofCells setting.scenarios cells = .action judge parts →
      Makes setting depth assignment (row + 1) rest board call →
      Makes setting depth assignment row (cells :: rest) board call
  | behindCall {depth row : Nat} {assignment : Assignment} {cells arguments : List String}
      {rest : List (List String)} {scenario : Scenario} {board reached : Board}
      {block : List Check} {call : Call} :
      Row.ofCells setting.scenarios cells = .call scenario arguments →
      scenario.call setting depth (scenario.bindPositional arguments) (siteOf assignment row) board
        = (.ok block, reached) →
      Makes setting depth assignment (row + 1) rest reached call →
      Makes setting depth assignment row (cells :: rest) board call

/-- The calls made while a document takes some tables over the factory of scripts. -/
inductive Document.Makes (defaultKind : String) (depth : Nat) :
    Document → List (List (List String)) → Call → Prop
  | script {document : Document} {rows : List (List String)} {tables : List (List (List String))}
      {call : Call} :
      kindOf rows = Script.kindName →
      Script.Makes (scriptSetting defaultKind document.context.scenarios) depth
        (document.assignment Script.kindName rows) 1 rows.tail
        (document.board.place (Table.ofRows rows)) call →
      Makes defaultKind depth document (rows :: tables) call
  | behind {document next : Document} {rows : List (List String)}
      {tables : List (List (List String))} {call : Call} :
      document.offer defaultKind depth rows = some next →
      Makes defaultKind depth next tables call →
      Makes defaultKind depth document (rows :: tables) call

/-! ## Blocks -/

/-- A call's assertions stand as one block among some checks: the roll-up of one account last, the
checks before it inside that account and without closing it, and those around the block outside. -/
structure Call.Block (call : Call) (number : Nat) (before body : List Check) (rollUp : Check)
    (behind : List Check) : Prop where
  answer : call.answer = .ok (body ++ [rollUp])
  rollUp : ∃ outer table, rollUp = call.scenario.rollUp call.site (number :: outer) table
  inside : ∀ check ∈ body, number ∈ check.expectation.scope
  stays : ∀ check ∈ body, check.closes? ≠ some number
  before : ∀ check ∈ before, number ∉ check.expectation.scope
  behind : ∀ check ∈ behind, number ∉ check.expectation.scope

variable {defaultKind : String} {scenarios : Registry} {call : Call} {number : Nat}
  {before body behind : List Check} {rollUp : Check}

theorem Call.Block.before_append (h : call.Block number before body rollUp behind)
    {earlier : List Check} (hearlier : ∀ check ∈ earlier, number ∉ check.expectation.scope) :
    call.Block number (earlier ++ before) body rollUp behind :=
  { h with
    before := fun check hcheck =>
      (List.mem_append.mp hcheck).elim (hearlier check) (h.before check) }

theorem Call.Block.behind_append (h : call.Block number before body rollUp behind)
    {later : List Check} (hlater : ∀ check ∈ later, number ∉ check.expectation.scope) :
    call.Block number before body rollUp (behind ++ later) :=
  { h with
    behind := fun check hcheck =>
      (List.mem_append.mp hcheck).elim (h.behind check) (hlater check) }

/-- A check made in other accounts than one, in a script outside it, is outside the account. -/
theorem Check.Within.outside {outer : Scope} {low high : Nat} {check : Check}
    (h : check.Within outer low high) (houter : number ∉ outer)
    (hrange : number < low ∨ high ≤ number) : number ∉ check.expectation.scope := by
  intro hmem
  rcases h.fresh number hmem with hscope | hfresh
  · exact houter hscope
  · omega

/-- The accounts opened from a place on are not those around it. -/
theorem Place.Sound.not_mem_scope {place : Place} (h : place.Sound) (hnumber : place.account ≤ number) :
    number ∉ place.assignment.scope := by
  intro hmem
  have := h.opened number hmem
  omega

/-- The assertions of the body of a call lie in the call's account and do not close it. -/
theorem Place.Sound.inside_body {place : Place} (hplace : place.Sound) {scenario : Scenario}
    {rows : List (List String)} {body : Outline} {check : Check}
    (hcheck : check ∈ body.checks (place.inside scenario rows)) :
    place.account ∈ check.expectation.scope ∧ check.closes? ≠ some place.account := by
  have hwithin := Outline.within_of_mem_checks (hplace.inside scenario rows) check hcheck
  refine ⟨hwithin.suffix.subset List.mem_cons_self, fun hcloses => ?_⟩
  have := (hwithin.closes _ hcloses).1
  simp only [Place.inside] at this
  omega

/-- A call made where it stands: its block is that of the place. -/
theorem Place.Sound.block {place : Place} (hplace : place.Sound) {board : Board}
    (hboard : place.StandsOn board) {scenario : Scenario} {binding : Binding}
    {rows : List (List String)} {body rest : Outline} {depth : Nat}
    (hexpand : scenario.expand binding = .ok rows) (hbody : Expands scenarios rows.tail body)
    (hdepth : body.depth < depth) :
    Call.Block ⟨scriptSetting defaultKind scenarios, depth, scenario, binding, place.site, board⟩
      place.account [] (body.checks (place.inside scenario rows)) (place.rollUp scenario)
      (rest.checks (place.behindCall body.callCount)) := by
  refine ⟨?_, ⟨_, _, rfl⟩, fun _ hcheck => (hplace.inside_body hcheck).1,
    fun _ hcheck => (hplace.inside_body hcheck).2, fun _ hcheck => absurd hcheck List.not_mem_nil, ?_⟩
  · exact congrArg Prod.fst (Scenario.call_of_expands defaultKind hboard hexpand hbody hdepth)
  · intro check hcheck
    refine (Outline.within_of_mem_checks (hplace.behindCall body.callCount) check hcheck).outside
      (hplace.not_mem_scope (Nat.le_refl _)) (Or.inl ?_)
    simp only [Place.behindCall]
    omega

/-- An account that is opened behind a call is not touched by the call. -/
theorem Place.Sound.outside_block {place : Place} (hplace : place.Sound) {scenario : Scenario}
    {rows : List (List String)} {body : Outline}
    (hnumber : place.account + 1 + body.callCount ≤ number) :
    ∀ check ∈ place.block scenario rows body, number ∉ check.expectation.scope := by
  intro check hcheck
  have hscope : number ∉ place.innerScope := by
    rintro (_ | ⟨_, hmem⟩)
    · omega
    · exact hplace.not_mem_scope (by omega) hmem
  rcases List.mem_append.mp hcheck with hbody | hrollUp
  · refine (Outline.within_of_mem_checks (hplace.inside scenario rows) check hbody).outside
      hscope (Or.inr ?_)
    simp only [Place.inside]
    omega
  · rw [List.mem_singleton.mp hrollUp]
    exact hscope

/-- The assertions of a call that reading some rows makes stand as one block among the assertions of
these rows. -/
theorem Script.Makes.block {depth row : Nat} {assignment : Assignment} {rows : List (List String)}
    {board : Board}
    (h : Makes (scriptSetting defaultKind scenarios) depth assignment row rows board call) :
    ∀ (place : Place) {outline : Outline}, place.assignment = assignment → place.row = row →
      place.Sound → place.StandsOn board → Expands scenarios rows outline → outline.depth ≤ depth →
      ∃ number before body rollUp behind,
        outline.checks place = before ++ (body ++ [rollUp]) ++ behind
        ∧ (place.account ≤ number ∧ number < place.account + outline.callCount)
        ∧ call.Block number before body rollUp behind := by
  -- On the way to the call what lies before it goes in front of its block and the rest behind.
  induction h with
  | here hcells =>
    rintro place outline rfl rfl hplace hboard houtline hdepth
    obtain ⟨rows, body, rest, rfl, hexpand, hbody, -⟩ := houtline.of_call hcells
    simp only [Outline.depth, Nat.max_le] at hdepth
    refine ⟨place.account, [], _, _, rest.checks (place.behindCall body.callCount), rfl, ?_,
      hplace.block hboard hexpand hbody hdepth.1⟩
    simp only [Outline.callCount]
    omega
  | @inside _ _ _ _ _ rows _ scenario _ _ hcells hexpand _ ih =>
    rintro place outline rfl rfl hplace hboard houtline hdepth
    obtain ⟨_, body, rest, rfl, hexpand', hbody, -⟩ := houtline.of_call hcells
    cases hexpand.symm.trans hexpand'
    simp only [Outline.depth, Nat.max_le] at hdepth
    obtain ⟨number, before, inner, rollUp, behind, hchecks, ⟨hge, hlt⟩, hblock⟩ :=
      ih (place.inside scenario rows) (Scenario.bodyAssignment_script defaultKind hboard _ _).symm
        rfl (hplace.inside scenario rows) (hboard.inside scenario rows) hbody
        (Nat.le_of_succ_le_succ hdepth.1)
    simp only [Place.inside] at hge hlt
    refine ⟨number, before, inner, rollUp, behind ++ (place.rollUp scenario ::
      rest.checks (place.behindCall body.callCount)), ?_, ?_, hblock.behind_append ?_⟩
    · simp only [Outline.checks, hchecks, List.append_assoc, List.cons_append, List.nil_append]
    · simp only [Outline.callCount]
      omega
    · intro check hcheck
      rcases List.mem_cons.mp hcheck with rfl | hrest
      · rintro (_ | ⟨_, hmem⟩)
        · omega
        · exact hplace.not_mem_scope (by omega) hmem
      · refine (Outline.within_of_mem_checks (hplace.behindCall body.callCount) check hrest).outside
          (hplace.not_mem_scope (by omega)) (Or.inl ?_)
        simp only [Place.behindCall]
        omega
  | behindNote hcells _ ih =>
    rintro place outline rfl rfl hplace hboard houtline hdepth
    obtain ⟨rest, rfl, hrest⟩ := houtline.of_note hcells
    exact ih place.behindNote rfl rfl hplace.behindNote hboard.behindNote hrest hdepth
  | @behindAction _ _ _ _ parts judge _ _ _ hcells _ ih =>
    rintro place outline rfl rfl hplace hboard houtline hdepth
    obtain ⟨rest, rfl, hrest⟩ := houtline.of_action hcells
    obtain ⟨number, before, inner, rollUp, behind, hchecks, hrange, hblock⟩ :=
      ih place.behindAction rfl rfl hplace.behindAction hboard.behindAction hrest hdepth
    refine ⟨number, [Script.actionCheck place.assignment place.row place.number judge parts]
      ++ before, inner, rollUp, behind, ?_, hrange, hblock.before_append ?_⟩
    · rw [Outline.checks, hchecks]
      rfl
    · intro check hcheck
      rw [List.mem_singleton.mp hcheck]
      exact hplace.not_mem_scope hrange.1
  | @behindCall _ _ _ _ _ _ scenario _ _ _ _ hcells hcall _ ih =>
    rintro place outline rfl rfl hplace hboard houtline hdepth
    obtain ⟨rows, body, rest, rfl, hexpand, hbody, hrest⟩ := houtline.of_call hcells
    simp only [Outline.depth, Nat.max_le] at hdepth
    cases (Scenario.call_of_expands defaultKind hboard hexpand hbody hdepth.1).symm.trans hcall
    obtain ⟨number, before, inner, rollUp, behind, hchecks, ⟨hge, hlt⟩, hblock⟩ :=
      ih (place.behindCall body.callCount) rfl rfl (hplace.behindCall body.callCount)
        (hboard.behindCall _ body.callCount) hrest hdepth.2
    simp only [Place.behindCall] at hge hlt
    refine ⟨number, place.block scenario rows body ++ before, inner, rollUp, behind, ?_, ?_,
      hblock.before_append (hplace.outside_block (by omega))⟩
    · simp only [Outline.checks, hchecks, Place.block, List.append_assoc]
    · simp only [Outline.callCount]
      omega

/-- The assertions of a call that a document makes stand as one block among the document's. -/
theorem Document.Makes.block {depth : Nat} {document last : Document}
    {tables : List (List (List String))} (h : Makes defaultKind depth document tables call)
    (hgrows : empty.Grows document)
    (hlast : document.offerAll defaultKind depth tables = some last) :
    ∃ number before body rollUp behind,
      last.checks = before ++ (body ++ [rollUp]) ++ behind
      ∧ number < last.accounts
      ∧ call.Block number before body rollUp behind := by
  induction h with
  | @script document rows tables call hkind hmakes =>
    obtain ⟨next, hoffer, hrest⟩ := offerAll_cons_eq_some.mp hlast
    obtain ⟨outline, houtline, hdepth, rfl⟩ := outline_of_offer hkind hoffer
    obtain ⟨number, before, body, rollUp, behind, hchecks, ⟨hge, hlt⟩, hblock⟩ :=
      hmakes.block (document.place rows) rfl rfl (document.place_sound rows)
        (document.place_standsOn rows) houtline hdepth
    obtain ⟨made, hmade, hwithin⟩ := hgrows.checks
    obtain ⟨later, hlater, hwithin'⟩ := (grows_offerAll hrest).checks
    have haccount : number < (document.scripted rows outline).accounts := by
      rw [accounts_scripted]
      exact hlt
    refine ⟨number, made ++ before, body, rollUp, behind ++ later, ?_, ?_, ?_⟩
    · have hscripted : (document.scripted rows outline).checks
          = document.checks ++ outline.checks (document.place rows) := rfl
      rw [hlater, hscripted, hchecks, hmade, show empty.checks = [] from rfl]
      simp only [List.nil_append, List.append_assoc]
    · exact Nat.lt_of_lt_of_le haccount (grows_offerAll hrest).accounts_le
    · refine (hblock.before_append fun check hcheck => ?_).behind_append fun check hcheck => ?_
      · exact (hwithin check hcheck).outside List.not_mem_nil (Or.inr hge)
      · exact (hwithin' check hcheck).outside List.not_mem_nil (Or.inl haccount)
  | behind hoffer _ ih =>
    obtain ⟨next, hnext, hrest⟩ := offerAll_cons_eq_some.mp hlast
    cases hoffer.symm.trans hnext
    exact ih (hgrows.trans (grows_offer hoffer)) hrest

/-! ## Verdicts -/

/-- The roll-up of a block reads the gravest result of the block. -/
theorem Call.Block.gravest (h : call.Block number before body rollUp behind) {σ : Type}
    {fixture : Fixture σ} {state state' : σ} {board board' : Board}
    (hproper : ∀ check ∈ before ++ (body ++ [rollUp]) ++ behind, check.Proper)
    (hbounded : board.ledger.Bounded) (hfresh : board.ledger.calls[number]? = some ⟨.zero, false⟩)
    {outcomes : List Outcome}
    (hrun : runChecks fixture (before ++ (body ++ [rollUp]) ++ behind) state board
      = some (outcomes, state', board')) :
    ∃ earlier inner outcome later, outcomes = earlier ++ (inner ++ [outcome]) ++ later
      ∧ earlier.length = before.length ∧ inner.length = body.length
      ∧ outcome = ⟨call.scenario.callId call.site ++ "_rollup",
          if call.scenario.declaresOutputs ∧ Verdict.gravest (resultsOf body inner) = .pass then none
          else some (Verdict.gravest (resultsOf body inner))⟩ := by
  have hmem {check : Check} (hcheck : check ∈ before ∨ check ∈ body) : check.Proper :=
    hproper check (by
      simp only [List.mem_append]
      rcases hcheck with hbefore | hbody
      · exact Or.inl (Or.inl hbefore)
      · exact Or.inl (Or.inr (Or.inl hbody)))
  -- The run in four parts: before the block, its body, its roll-up, and behind the block.
  obtain ⟨front, _, _, later, hfront, _, rfl⟩ := runChecks_append hrun
  obtain ⟨earlier, first, middle, block, hearlier, hblock, rfl⟩ := runChecks_append hfront
  obtain ⟨inner, second, reached, last, hinner, hlast, rfl⟩ := runChecks_append hblock
  obtain ⟨outcome, third, closed, rest, hrollUp, hnil, rfl⟩ := runChecks_cons_eq_some.mp hlast
  cases hnil
  have hbefore : middle.ledger.calls[number]? = some ⟨.zero, false⟩ := by
    rw [← hfresh]
    exact getElem?_runChecks (fun check hcheck => hmem (Or.inl hcheck)) hbounded h.before hearlier
  have hmiddle : middle.ledger.Bounded :=
    runChecks_bounded (fun check hcheck => hmem (Or.inl hcheck)) hbounded hearlier
  obtain ⟨outer, table, rfl⟩ := h.rollUp
  exact ⟨earlier, inner, outcome, later, rfl, length_runChecks hearlier, length_runChecks hinner,
    perform_rollUp_gravest (fun check hcheck => hmem (Or.inr hcheck)) hmiddle h.inside h.stays
      hbefore hinner hrollUp⟩

/-- In the document of some tables every call stands as one block that ends with its roll-up. In
each run of the document the roll-up's outcome is the gravest result of the block's other
assertions, nested calls included; it is missing when the scenario hands out values and that is a
pass. There is a run as long as no verdict is given `2 ^ 32` times. -/
theorem Document.rollUp_gravest {depth : Nat} {tables : List (List (List String))}
    {document : Document} (hdocument : ofTables defaultKind depth tables = some document)
    (hcall : Makes defaultKind depth .empty tables call) :
    ∃ before body rollUp behind,
      document.checks = before ++ (body ++ [rollUp]) ++ behind
      ∧ call.answer = .ok (body ++ [rollUp])
      ∧ rollUp.instruction = .noop (call.scenario.callId call.site ++ "_rollup")
      ∧ ∀ {σ : Type} (fixture : Fixture σ) (state : σ),
        ((∀ verdict, (fixture.verdicts state (questionsOf document.checks)).count (some verdict)
            < UInt32.size) → (document.run fixture state).isSome)
        ∧ ∀ outcomes state' document',
          document.run fixture state = some (outcomes, state', document') →
          ∃ earlier inner outcome later, outcomes = earlier ++ (inner ++ [outcome]) ++ later
            ∧ earlier.length = before.length ∧ inner.length = body.length
            ∧ outcome = ⟨call.scenario.callId call.site ++ "_rollup",
                if call.scenario.declaresOutputs ∧ Verdict.gravest (resultsOf body inner) = .pass
                then none else some (Verdict.gravest (resultsOf body inner))⟩ := by
  obtain ⟨number, before, body, rollUp, behind, hchecks, hnumber, hblock⟩ :=
    hcall.block (.refl empty) hdocument
  have hgrows : empty.Grows document := grows_offerAll hdocument
  refine ⟨before, body, rollUp, behind, hchecks, hblock.answer, ?_, ?_⟩
  · obtain ⟨outer, table, rfl⟩ := hblock.rollUp
    rfl
  intro σ fixture state
  refine ⟨run_isSome hgrows fixture state, ?_⟩
  intro outcomes state' document' hrun
  obtain ⟨⟨_, _, board'⟩, hruns, heq⟩ := Option.map_eq_some_iff.mp hrun
  cases heq
  rw [hchecks] at hruns
  have hproper := hgrows.proper
  rw [hchecks] at hproper
  exact hblock.gravest hproper hgrows.bounded (hgrows.fresh hnumber) hruns

/-- The rows that a row of a script expands to, if it is a call. -/
def Script.Row.expansion? : Script.Row → Option (List (List String))
  | .call scenario arguments =>
    match scenario.expand (scenario.bindPositional arguments) with
    | .ok rows => some rows
    | .error _ => none
  | _ => none

/-- A row with an expansion is a call, and its rows are the scenario's with the values put in. -/
theorem Script.Row.call_of_expansion? {row : Script.Row} {rows : List (List String)}
    (h : row.expansion? = some rows) : ∃ scenario arguments, row = .call scenario arguments
      ∧ scenario.expand (scenario.bindPositional arguments) = .ok rows := by
  cases row with
  | note => cases h
  | action judge parts => cases h
  | call scenario arguments =>
    refine ⟨scenario, arguments, rfl, ?_⟩
    rw [expansion?] at h
    cases hexpand : scenario.expand (scenario.bindPositional arguments) with
    | error fault => rw [hexpand] at h; cases h
    | ok expanded => rw [hexpand] at h; cases h; rfl

/-- The inner one of two nested calls has its block, and there is a run with its outcome. -/
theorem Document.rollUp_gravest_nestedCalls :
    ∃ document call before body rollUp behind outcomes earlier inner outcome later,
      ofTables Script.kindName 2 nestedCalls = some document
      ∧ Makes Script.kindName 2 .empty nestedCalls call ∧ call.depth = 1
      ∧ document.checks = before ++ (body ++ [rollUp]) ++ behind
      ∧ (document.run numbering 0).map Prod.fst = some outcomes
      ∧ outcomes = earlier ++ (inner ++ [outcome]) ++ later ∧ inner.length = body.length
      ∧ outcome = ⟨call.scenario.callId call.site ++ "_rollup",
          if call.scenario.declaresOutputs ∧ Verdict.gravest (resultsOf body inner) = .pass
          then none else some (Verdict.gravest (resultsOf body inner))⟩ := by
  obtain ⟨document, hdocument⟩ := Option.isSome_iff_exists.mp
    (show (ofTables Script.kindName 2 nestedCalls).isSome by decide +kernel)
  let declarations := (empty.declared nestedCalls[0]).declared nestedCalls[1]
  obtain ⟨visit, host, hvisit, hvisited⟩ := Script.Row.call_of_expansion?
    (show (Script.Row.ofCells declarations.context.scenarios ["visit", "Ann"]).expansion?
      = some [["scenario", "visit _", "host"], ["greet", "Ann"], ["open door"], ["ensure", "leave"]]
      by decide +kernel)
  obtain ⟨greet, who, hgreet, hgreeted⟩ := Script.Row.call_of_expansion?
    (show (Script.Row.ofCells declarations.context.scenarios ["greet", "Ann"]).expansion?
      = some [["scenario", "greet _", "who"], ["say", "hello Ann"]] by decide +kernel)
  have hcall : ∃ call, Makes Script.kindName 2 .empty nestedCalls call ∧ call.depth = 1 :=
    ⟨_, .behind (offer_scenario (by decide +kernel)) (.behind (offer_scenario (by decide +kernel))
      (.script (by decide +kernel) (.inside hvisit hvisited (.here hgreet)))), rfl⟩
  obtain ⟨call, hmakes, hdepth⟩ := hcall
  obtain ⟨before, body, rollUp, behind, hchecks, -, -, hruns⟩ := rollUp_gravest hdocument hmakes
  have hverdicts : (ofTables Script.kindName 2 nestedCalls).map (fun document =>
      numbering.verdicts 0 (questionsOf document.checks))
        = some [some .fail, some .pass, some .fail, some .fail] := by decide +kernel
  rw [hdocument, Option.map_some, Option.some_inj] at hverdicts
  have hcount (verdict : Verdict) :
      (numbering.verdicts 0 (questionsOf document.checks)).count (some verdict) < UInt32.size := by
    rw [hverdicts]
    cases verdict <;> decide
  obtain ⟨⟨outcomes, state, reached⟩, hrun⟩ :=
    Option.isSome_iff_exists.mp ((hruns numbering 0).1 hcount)
  obtain ⟨earlier, inner, outcome, later, houtcomes, -, hlength, houtcome⟩ :=
    (hruns numbering 0).2 outcomes state reached hrun
  exact ⟨document, call, before, body, rollUp, behind, outcomes, earlier, inner, outcome, later,
    hdocument, hmakes, hdepth, hchecks, by rw [hrun]; rfl, houtcomes, hlength, houtcome⟩

end ScenarioTables
