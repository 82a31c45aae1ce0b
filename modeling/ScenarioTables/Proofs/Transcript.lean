import ScenarioTables.Runner

/-!
# Transcripts of runs

A run of assertions has two parties, the fixture side and the expectations. What passes between them
and the run can be recorded from outside, by parties that write down everything they are asked and
what they answer; recording does not change the run. The record consists of one exchange for each
assertion, in order (`Exchange`, `Course`): the instruction is sent unless it does nothing, then the
expectation judges the reply. Each exchange starts from the world in which the one before it ended.

Nothing is assumed of the parties. They may share a world and change it as they like, an answer may
be a fault, and a party may give no answer at all, which is the only thing that ends a run early
(`Parties.run_course`). How long an answer takes is not part of the record.
-/

set_option autoImplicit false

namespace ScenarioTables

/-- What passes between a run and its parties. -/
inductive Event (ε : Type) where
  /-- The fixture side was sent an instruction and answered. -/
  | sent (instruction : Instruction) (answer : Except Fault (Option String))
  /-- An expectation judged a reply. -/
  | judged (expectation : ε) (reply : Reply) (verdict : Option Verdict)

namespace Event

variable {ε : Type}

/-- The instruction that was sent, if one was. -/
def instruction? : Event ε → Option Instruction
  | .sent instruction _ => some instruction
  | .judged .. => none

/-- The expectation that judged, if one did. -/
def expectation? : Event ε → Option ε
  | .sent .. => none
  | .judged expectation _ _ => some expectation

/-- What an expectation came to, if one judged. -/
def judgement? : Event ε → Option (Option Verdict)
  | .sent .. => none
  | .judged _ _ verdict => some verdict

end Event

/-- **The reply that renders an answer**: its value, no value, or the full text of its fault. -/
inductive Reply.Renders : Reply → Except Fault (Option String) → Prop where
  | value (text : String) : Renders (.value text) (.ok (some text))
  | void : Renders .void (.ok none)
  | exception (fault : Fault) :
      Renders (.exception (fault.category.label ++ "/" ++ fault.message)) (.error fault)

/-- An answer is rendered as one reply and no other. -/
theorem Reply.renders_iff {reply : Reply} {answer : Except Fault (Option String)} :
    reply.Renders answer ↔ reply = .ofAnswer answer := by
  constructor
  · rintro ⟨⟩ <;> rfl
  · rintro rfl
    match answer with
    | .ok (some text) => exact .value text
    | .ok none => exact .void
    | .error fault => exact .exception fault

/-- **A transcript of assertions**: the instructions that do something were sent, each once and in
order; each expectation judged once, in order; and each outcome has the id of its assertion and what
its expectation came to. -/
structure Transcript {ε : Type} (assertions : List (Assertion ε)) (events : List (Event ε))
    (outcomes : List Outcome) : Prop where
  sent : events.filterMap Event.instruction?
    = (assertions.map (·.instruction)).filter (!·.isNoop)
  judged : events.filterMap Event.expectation? = assertions.map (·.expectation)
  ids : outcomes.map (·.instructionId) = assertions.map (·.instruction.id)
  verdicts : outcomes.map (·.verdict) = events.filterMap Event.judgement?

/-- Transcripts are put one behind another. -/
theorem Transcript.append {ε : Type} {assertions rest : List (Assertion ε)}
    {events later : List (Event ε)} {outcomes others : List Outcome}
    (hfirst : Transcript assertions events outcomes) (hrest : Transcript rest later others) :
    Transcript (assertions ++ rest) (events ++ later) (outcomes ++ others) where
  sent := by
    rw [List.filterMap_append, hfirst.sent, hrest.sent, List.map_append, List.filter_append]
  judged := by
    rw [List.filterMap_append, hfirst.judged, hrest.judged, List.map_append]
  ids := by
    rw [List.map_append, hfirst.ids, hrest.ids, List.map_append]
  verdicts := by
    rw [List.map_append, hfirst.verdicts, hrest.verdicts, List.filterMap_append]

/-- The fixture side and the expectations over one world. A party that panics gives no result. -/
structure Parties (σ ε : Type) where
  invoke : Instruction → StateT σ Option (Except Fault (Option String))
  evaluate : ε → Reply → StateT σ Option (Option Verdict)

namespace Parties

variable {σ ε : Type}

/-- The outcomes of assertions and the world that the run leaves. -/
def run (parties : Parties σ ε) (assertions : List (Assertion ε)) (world : σ) :
    Option (List Outcome × σ) :=
  (runAssertions parties.invoke parties.evaluate assertions).run world

/-- A step that also writes down an event about the value that it yields. -/
def recording {α : Type} (step : StateT σ Option α) (event : α → Event ε) :
    StateT (σ × List (Event ε)) Option α := fun (world, events) =>
  (step world).map fun (value, next) => (value, next, events ++ [event value])

/-- The parties with a record of what they are asked and what they answer. -/
def recorded (parties : Parties σ ε) : Parties (σ × List (Event ε)) ε where
  invoke instruction := recording (parties.invoke instruction) (.sent instruction)
  evaluate expectation reply :=
    recording (parties.evaluate expectation reply) (.judged expectation reply)

/-- **What happens to one assertion**: from one world through some events to an outcome and the next
world. -/
inductive Exchange (parties : Parties σ ε) :
    Assertion ε → σ → List (Event ε) → Outcome → σ → Prop where
  | noop {id : String} {expectation : ε} {world last : σ} {verdict : Option Verdict}
      (hjudged : parties.evaluate expectation .void world = some (verdict, last)) :
      parties.Exchange ⟨.noop id, expectation⟩ world [.judged expectation .void verdict]
        ⟨id, verdict⟩ last
  | call {id actor method : String} {arguments : List String} {expectation : ε}
      {world next last : σ} {answer : Except Fault (Option String)} {reply : Reply}
      {verdict : Option Verdict}
      (hsent : parties.invoke (.call id actor method arguments) world = some (answer, next))
      (hreply : reply.Renders answer)
      (hjudged : parties.evaluate expectation reply next = some (verdict, last)) :
      parties.Exchange ⟨.call id actor method arguments, expectation⟩ world
        [.sent (.call id actor method arguments) answer, .judged expectation reply verdict]
        ⟨id, verdict⟩ last

/-- **The course of a run**: one exchange after another, an outcome for each. -/
inductive Course (parties : Parties σ ε) :
    List (Assertion ε) → σ → List (Event ε) → List Outcome → σ → Prop where
  | done {world : σ} : parties.Course [] world [] [] world
  | next {assertion : Assertion ε} {rest : List (Assertion ε)} {world middle last : σ}
      {events later : List (Event ε)} {outcome : Outcome} {outcomes : List Outcome}
      (hfirst : parties.Exchange assertion world events outcome middle)
      (hrest : parties.Course rest middle later outcomes last) :
      parties.Course (assertion :: rest) world (events ++ later) (outcome :: outcomes) last

variable {parties : Parties σ ε} {assertion : Assertion ε} {assertions rest : List (Assertion ε)}
  {world last : σ} {events : List (Event ε)} {outcome : Outcome} {outcomes : List Outcome}

/-! ## One assertion -/

/-- Carries out one assertion. -/
def perform (parties : Parties σ ε) (assertion : Assertion ε) (world : σ) :
    Option (Outcome × σ) :=
  assertion.perform parties.invoke parties.evaluate world

theorem perform_noop (parties : Parties σ ε) (id : String) (expectation : ε) (world : σ) :
    parties.perform ⟨.noop id, expectation⟩ world
      = (parties.evaluate expectation .void world).map fun judged =>
          (⟨id, judged.1⟩, judged.2) := by
  change Option.bind _ _ = _
  cases parties.evaluate expectation .void world <;> rfl

theorem perform_call (parties : Parties σ ε) (id actor method : String) (arguments : List String)
    (expectation : ε) (world : σ) :
    parties.perform ⟨.call id actor method arguments, expectation⟩ world
      = (parties.invoke (.call id actor method arguments) world).bind fun sent =>
          (parties.evaluate expectation (.ofAnswer sent.1) sent.2).map fun judged =>
            (⟨id, judged.1⟩, judged.2) := by
  change Option.bind (Option.bind _ _) _ = _
  rw [Option.bind_assoc]
  refine Option.bind_congr fun sent _ => ?_
  obtain ⟨answer, next⟩ := sent
  change Option.bind (parties.evaluate expectation (.ofAnswer answer) next) _ = _
  cases parties.evaluate expectation (.ofAnswer answer) next <;> rfl

/-- An assertion is carried out by an exchange. -/
theorem perform_eq_some : parties.perform assertion world = some (outcome, last)
    ↔ ∃ events, parties.Exchange assertion world events outcome last := by
  obtain ⟨instruction, expectation⟩ := assertion
  constructor
  · intro h
    cases instruction with
    | noop id =>
      rw [perform_noop, Option.map_eq_some_iff] at h
      obtain ⟨⟨verdict, last⟩, hjudged, heq⟩ := h
      cases heq
      exact ⟨_, .noop hjudged⟩
    | call id actor method arguments =>
      rw [perform_call, Option.bind_eq_some_iff] at h
      obtain ⟨⟨answer, next⟩, hsent, h⟩ := h
      obtain ⟨⟨verdict, last⟩, hjudged, heq⟩ := Option.map_eq_some_iff.mp h
      cases heq
      exact ⟨_, .call hsent (Reply.renders_iff.mpr rfl) hjudged⟩
  · rintro ⟨events, h⟩
    cases h with
    | noop hjudged => rw [perform_noop, hjudged, Option.map_some]
    | call hsent hreply hjudged =>
      cases Reply.renders_iff.mp hreply
      rw [perform_call, hsent, Option.bind_some]
      exact Option.map_eq_some_iff.mpr ⟨_, hjudged, rfl⟩

/-- If the parties always answer, the assertion is carried out. -/
theorem isSome_perform (hinvoke : ∀ instruction world, (parties.invoke instruction world).isSome)
    (hevaluate : ∀ expectation reply world, (parties.evaluate expectation reply world).isSome)
    (assertion : Assertion ε) (world : σ) : (parties.perform assertion world).isSome := by
  obtain ⟨instruction, expectation⟩ := assertion
  cases instruction with
  | noop id =>
    rw [perform_noop, Option.isSome_map]
    exact hevaluate _ _ _
  | call id actor method arguments =>
    obtain ⟨sent, hsent⟩ := Option.isSome_iff_exists.mp
      (hinvoke (.call id actor method arguments) world)
    rw [perform_call, hsent, Option.bind_some, Option.isSome_map]
    exact hevaluate _ _ _

/-- The events of one exchange are a transcript of its assertion. -/
theorem Exchange.transcript (h : parties.Exchange assertion world events outcome last) :
    Transcript [assertion] events [outcome] := by
  cases h <;> constructor <;> rfl

/-! ## Recording one assertion -/

/-- A recorded step yields what the step yields, and the record grows by the event. -/
theorem recording_eq_some {α : Type} {step : StateT σ Option α} {event : α → Event ε} {value : α}
    {before : List (Event ε)} {state : σ × List (Event ε)} :
    recording step event (world, before) = some (value, state)
      ↔ step world = some (value, state.1) ∧ state.2 = before ++ [event value] := by
  obtain ⟨next, after⟩ := state
  rw [recording, Option.map_eq_some_iff]
  constructor
  · rintro ⟨⟨value, next⟩, hstep, heq⟩
    cases heq
    exact ⟨hstep, rfl⟩
  · rintro ⟨hstep, rfl⟩
    exact ⟨_, hstep, rfl⟩

/-- An exchange with recorded parties is the exchange without the record, and the record grows by
its events. -/
theorem exchange_recorded {before : List (Event ε)} {state : σ × List (Event ε)} :
    parties.recorded.Exchange assertion (world, before) events outcome state
      ↔ parties.Exchange assertion world events outcome state.1 ∧ state.2 = before ++ events := by
  constructor
  · intro h
    cases h with
    | noop hjudged =>
      obtain ⟨hjudged, hafter⟩ := recording_eq_some.mp hjudged
      exact ⟨.noop hjudged, hafter⟩
    | call hsent hreply hjudged =>
      obtain ⟨hsent, hbetween⟩ := recording_eq_some.mp hsent
      obtain ⟨hjudged, hafter⟩ := recording_eq_some.mp hjudged
      refine ⟨.call hsent hreply hjudged, ?_⟩
      rw [hafter, hbetween, List.append_assoc, List.singleton_append]
  · rintro ⟨h, hafter⟩
    generalize hlast : state.1 = last at h
    cases h with
    | noop hjudged =>
      subst hlast
      exact .noop (recording_eq_some.mpr ⟨hjudged, hafter⟩)
    | @call id actor method arguments _ _ next _ answer _ _ hsent hreply hjudged =>
      subst hlast
      have hsent : parties.recorded.invoke (.call id actor method arguments) (world, before)
          = some (answer, next, before ++ [.sent (.call id actor method arguments) answer]) :=
        recording_eq_some.mpr ⟨hsent, rfl⟩
      refine .call hsent hreply (recording_eq_some.mpr ⟨hjudged, ?_⟩)
      rw [hafter, List.append_assoc, List.singleton_append]

/-! ## Whole runs -/

theorem run_cons (parties : Parties σ ε) (assertion : Assertion ε) (rest : List (Assertion ε))
    (world : σ) : parties.run (assertion :: rest) world
      = (parties.perform assertion world).bind fun first =>
          (parties.run rest first.2).map fun reached => (first.1 :: reached.1, reached.2) := by
  change Option.bind _ _ = _
  refine Option.bind_congr fun first _ => ?_
  obtain ⟨outcome, middle⟩ := first
  change Option.bind (parties.run rest middle) _ = _
  cases parties.run rest middle <;> rfl

/-- A run takes its course. -/
theorem run_eq_some : parties.run assertions world = some (outcomes, last)
    ↔ ∃ events, parties.Course assertions world events outcomes last := by
  induction assertions generalizing world outcomes with
  | nil =>
    constructor
    · rintro ⟨⟩
      exact ⟨[], .done⟩
    · rintro ⟨events, ⟨⟩⟩
      rfl
  | cons assertion rest ih =>
    rw [run_cons, Option.bind_eq_some_iff]
    constructor
    · rintro ⟨⟨outcome, middle⟩, hfirst, h⟩
      obtain ⟨⟨outcomes, last⟩, hrest, heq⟩ := Option.map_eq_some_iff.mp h
      cases heq
      obtain ⟨events, hfirst⟩ := perform_eq_some.mp hfirst
      obtain ⟨later, hrest⟩ := ih.mp hrest
      exact ⟨_, .next hfirst hrest⟩
    · rintro ⟨events, h⟩
      cases h with
      | next hfirst hrest =>
        have hrest := ih.mpr ⟨_, hrest⟩
        exact ⟨_, perform_eq_some.mpr ⟨_, hfirst⟩, Option.map_eq_some_iff.mpr ⟨_, hrest, rfl⟩⟩

/-- The course of a run with recorded parties is its course without the record, and the record grows
by its events. -/
theorem course_recorded {before : List (Event ε)} {state : σ × List (Event ε)} :
    parties.recorded.Course assertions (world, before) events outcomes state
      ↔ parties.Course assertions world events outcomes state.1
        ∧ state.2 = before ++ events := by
  induction assertions generalizing world before events outcomes with
  | nil =>
    constructor
    · rintro ⟨⟩
      exact ⟨.done, (List.append_nil _).symm⟩
    · rintro ⟨h, hafter⟩
      obtain ⟨last, after⟩ := state
      cases h
      cases hafter.trans (List.append_nil _)
      exact .done
  | cons assertion rest ih =>
    constructor
    · intro h
      cases h with
      | next hfirst hrest =>
        obtain ⟨hfirst, hmiddle⟩ := exchange_recorded.mp hfirst
        obtain ⟨hrest, hafter⟩ := ih.mp hrest
        refine ⟨.next hfirst hrest, ?_⟩
        rw [hafter, hmiddle, List.append_assoc]
    · rintro ⟨h, hafter⟩
      cases h with
      | @next _ _ _ middle _ exchanged _ outcome _ hfirst hrest =>
        have hfirst : parties.recorded.Exchange assertion (world, before) exchanged outcome
            (middle, before ++ exchanged) := exchange_recorded.mpr ⟨hfirst, rfl⟩
        refine .next hfirst (ih.mpr ⟨hrest, ?_⟩)
        rw [hafter, List.append_assoc]

/-- The events of a course are a transcript of its assertions. -/
theorem Course.transcript (h : parties.Course assertions world events outcomes last) :
    Transcript assertions events outcomes := by
  induction h with
  | done => constructor <;> rfl
  | next hfirst _ ih => exact hfirst.transcript.append ih

/-- If the parties always answer, a run comes to its end. -/
theorem isSome_run (hinvoke : ∀ instruction world, (parties.invoke instruction world).isSome)
    (hevaluate : ∀ expectation reply world, (parties.evaluate expectation reply world).isSome)
    (assertions : List (Assertion ε)) (world : σ) : (parties.run assertions world).isSome := by
  induction assertions generalizing world with
  | nil => rfl
  | cons assertion rest ih =>
    obtain ⟨first, hfirst⟩ := Option.isSome_iff_exists.mp
      (isSome_perform hinvoke hevaluate assertion world)
    rw [run_cons, hfirst, Option.bind_some, Option.isSome_map]
    exact ih first.2

/-- What a recorded run comes to is its course. -/
theorem recorded_run_eq_some : parties.recorded.run assertions (world, [])
      = some (outcomes, last, events)
    ↔ parties.Course assertions world events outcomes last := by
  rw [run_eq_some]
  constructor
  · rintro ⟨happened, h⟩
    obtain ⟨h, heq⟩ := course_recorded.mp h
    cases heq
    exact h
  · intro h
    exact ⟨events, course_recorded.mpr ⟨h, rfl⟩⟩

/-- **A run and its record.** Recording what passes between a run and its parties does not change
the run. The record, the outcomes and the last world are those of one course of exchanges, and each
course is recorded. So each expectation judges once, in the order of the assertions; each
instruction that does something is sent once, between the judgement before and its own; and each
outcome has the id of its assertion and what its expectation came to. If the parties always answer,
whatever the answers are, the run comes to its end. -/
theorem run_course (parties : Parties σ ε) (assertions : List (Assertion ε)) (world : σ) :
    (parties.recorded.run assertions (world, [])).map (fun reached => (reached.1, reached.2.1))
        = parties.run assertions world
      ∧ (∀ outcomes last events,
          parties.recorded.run assertions (world, []) = some (outcomes, last, events)
            ↔ parties.Course assertions world events outcomes last)
      ∧ (∀ outcomes last events,
          parties.recorded.run assertions (world, []) = some (outcomes, last, events) →
            Transcript assertions events outcomes)
      ∧ ((∀ instruction world, (parties.invoke instruction world).isSome) →
          (∀ expectation reply world, (parties.evaluate expectation reply world).isSome) →
            ∃ outcomes last events,
              parties.recorded.run assertions (world, []) = some (outcomes, last, events)
                ∧ parties.run assertions world = some (outcomes, last)) := by
  refine ⟨?_, fun _ _ _ => recorded_run_eq_some, fun _ _ _ h => ?_, fun hinvoke hevaluate => ?_⟩
  · ext ⟨outcomes, last⟩
    simp only [Option.map_eq_some_iff, Prod.exists, Prod.mk.injEq, run_eq_some]
    constructor
    · rintro ⟨_, _, events, h, rfl, rfl⟩
      exact ⟨events, recorded_run_eq_some.mp (run_eq_some.mpr h)⟩
    · rintro ⟨events, h⟩
      exact ⟨outcomes, last, events, run_eq_some.mp (recorded_run_eq_some.mpr h), rfl, rfl⟩
  · exact (recorded_run_eq_some.mp h).transcript
  · obtain ⟨⟨outcomes, last⟩, hrun⟩ := Option.isSome_iff_exists.mp
      (isSome_run hinvoke hevaluate assertions world)
    obtain ⟨events, hcourse⟩ := run_eq_some.mp hrun
    exact ⟨outcomes, last, events, recorded_run_eq_some.mpr hcourse, hrun⟩

/-- A fixture side that echoes and expectations that wait for their turn. Both count, in the same
number, how often they were asked. -/
def countedTurns : Parties Nat Nat where
  invoke instruction := fun turns =>
    match instruction with
    | .call _ _ "echo" arguments => some (.ok arguments.head?, turns + 1)
    | _ => some (.error (.reported .execution "no such method"), turns + 1)
  evaluate expected _ := fun turns =>
    some (if turns = expected then some .pass else some .fail, turns + 1)

/-- A value, a fault, nothing to do and no value; the last expectation has come too late. -/
def mixedAnswers : List (Assertion Nat) :=
  [⟨.call "a" "calc" "echo" ["1"], 1⟩, ⟨.call "b" "calc" "fail" [], 3⟩, ⟨.noop "c", 4⟩,
    ⟨.call "d" "calc" "echo" [], 5⟩]

/-- With a fault, nothing to do and a missing value in between, every turn is taken once and in
order, and only the last expectation comes too late. -/
theorem run_course_mixedAnswers :
    ∃ events, countedTurns.run mixedAnswers 0
        = some ([⟨"a", some .pass⟩, ⟨"b", some .pass⟩, ⟨"c", some .pass⟩, ⟨"d", some .fail⟩], 7)
      ∧ countedTurns.Course mixedAnswers 0 events
          [⟨"a", some .pass⟩, ⟨"b", some .pass⟩, ⟨"c", some .pass⟩, ⟨"d", some .fail⟩] 7
      ∧ events.filterMap Event.expectation? = [1, 3, 4, 5]
      ∧ events[3]? = some (.judged 3 (.exception "EXEC/no such method") (some .pass)) := by
  obtain ⟨-, hcourse, htranscript, hends⟩ := run_course countedTurns mixedAnswers 0
  have hinvoke (instruction : Instruction) (turns : Nat) :
      (countedTurns.invoke instruction turns).isSome := by
    simp only [countedTurns]
    split <;> rfl
  obtain ⟨outcomes, last, events, hrecorded, hrun⟩ := hends hinvoke fun _ _ _ => rfl
  have hevents : events = _ := congrArg (·.2.2) (Option.some.inj (hrecorded.symm.trans rfl))
  cases hrun.symm.trans (show countedTurns.run mixedAnswers 0 = some (_, 7) from rfl)
  refine ⟨events, hrun, (hcourse _ _ _).mp hrecorded, (htranscript _ _ _ hrecorded).judged, ?_⟩
  rw [hevents]
  rfl

end Parties

end ScenarioTables
