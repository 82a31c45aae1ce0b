import ScenarioTables.Proofs.Document

/-!
# Calling a scenario is inlining its body

`Inlines` puts the expanded rows of a call in the place of the calling row, calls in those rows
included, and `InlinesTables` does so for the scripts of a document while the document takes its
tables. The document of the inlined tables has no call in it. To a fixture side that does not look
at the ids of instructions both documents are the same: it is sent the same requests in the same
order, its answers get the same results, and the tallies of the documents agree
(`observe_inlined`).

Roll-ups ask for nothing and count nothing, so they do not belong to what is observed. The ids of
instructions and the tables that are shown differ between the two documents.
-/

set_option autoImplicit false

namespace ScenarioTables

/-- Rows with every call replaced by the rows that it expands to below their first, and so on
inwards. The other rows stay as they are. -/
inductive Inlines (scenarios : Registry) : List (List String) → List (List String) → Prop
  | done : Inlines scenarios [] []
  | keep {cells : List String} {rest flat : List (List String)} :
      (∀ scenario arguments, Script.Row.ofCells scenarios cells ≠ .call scenario arguments) →
      Inlines scenarios rest flat →
      Inlines scenarios (cells :: rest) (cells :: flat)
  | call {cells arguments : List String} {scenario : Scenario}
      {rows body rest flat : List (List String)} :
      Script.Row.ofCells scenarios cells = .call scenario arguments →
      scenario.expand (scenario.bindPositional arguments) = .ok rows →
      Inlines scenarios rows.tail body → Inlines scenarios rest flat →
      Inlines scenarios (cells :: rest) (body ++ flat)

/-- A table with its calls inlined while the given scenarios are registered. Only scripts call. -/
inductive InlinesTable (scenarios : Registry) : List (List String) → List (List String) → Prop
  | script {rows flat : List (List String)} :
      Document.kindOf rows = Script.kindName → Inlines scenarios rows.tail flat →
      InlinesTable scenarios rows (rows.take 1 ++ flat)
  | other {rows : List (List String)} :
      Document.kindOf rows ≠ Script.kindName → InlinesTable scenarios rows rows

/-- Tables that a document takes one after another, with their calls inlined: each is read with the
scenarios that the document has when it takes the table. -/
inductive InlinesTables (defaultKind : String) (depth : Nat) :
    Document → List (List (List String)) → List (List (List String)) → Prop
  | done {document : Document} : InlinesTables defaultKind depth document [] []
  | table {document next : Document} {rows flat : List (List String)}
      {tables flats : List (List (List String))} :
      InlinesTable document.context.scenarios rows flat →
      document.offer defaultKind depth rows = some next →
      InlinesTables defaultKind depth next tables flats →
      InlinesTables defaultKind depth document (rows :: tables) (flat :: flats)

/-- What an instruction asks for, without its id: the actor, the method and the arguments. -/
def Instruction.request? : Instruction → Option (String × String × List String)
  | .noop _ => none
  | .call _ actor method arguments => some (actor, method, arguments)

namespace Fixture

variable {σ : Type}

/-- From a state on, the answers do not depend on the ids of the instructions. -/
def IdBlind (fixture : Fixture σ) (state : σ) : Prop :=
  ∀ asked asked' : List Instruction,
    asked.map Instruction.request? = asked'.map Instruction.request? →
    fixture.answers state asked = fixture.answers state asked'

/-- A fixture side that does the same for the same request is blind to ids. -/
theorem idBlind_of_request {fixture : Fixture σ}
    (h : ∀ {instruction instruction' : Instruction} (state : σ),
      instruction.request? = instruction'.request? →
      fixture instruction state = fixture instruction' state) (state : σ) :
    fixture.IdBlind state := by
  intro asked
  induction asked generalizing state with
  | nil =>
    intro asked' hasked
    rw [List.map_eq_nil_iff.mp hasked.symm]
  | cons instruction rest ih =>
    intro asked' hasked
    obtain ⟨instruction', rest', rfl, hsame, hrest⟩ := List.map_eq_cons_iff.mp hasked.symm
    rw [answers, answers, h state hsame, ih _ rest' hrest.symm]

/-- The same fixture side, which also writes down the instructions it is sent. -/
def recorded (fixture : Fixture σ) : Fixture (σ × List Instruction) :=
  fun instruction (state, sent) =>
    ((fixture instruction state).1, (fixture instruction state).2, sent ++ [instruction])

end Fixture

/-- What can be seen of a run. -/
structure Observation where
  /-- The requests that were sent, in order. -/
  requests : List (String × String × List String)
  /-- The results, in order, without those of roll-ups. -/
  results : List (Option Verdict)
  /-- The tally of the document. -/
  summary : Tally
  deriving DecidableEq, Repr

/-- What can be seen of a run of a document; nothing if a count overflows. -/
def Document.observe {σ : Type} (document : Document) (fixture : Fixture σ) (state : σ) :
    Option Observation :=
  (document.run fixture.recorded (state, [])).map fun (outcomes, (_, sent), reached) =>
    { requests := sent.filterMap Instruction.request?
      results := resultsOf document.checks outcomes
      summary := reached.summary }

/-! ## What an outline asks -/

/-- The requests of an outline with the judges of their replies. -/
def Outline.asks : Outline → List (Option (String × String × List String) × Judge)
  | .done => []
  | .note _ rest => rest.asks
  | .action _ judge parts rest =>
    (some (Script.actor, Identifier.methodName (Cells.spelledName parts),
      Cells.spelledArguments parts), judge) :: rest.asks
  | .call _ _ body rest => body.asks ++ rest.asks

/-- The requests of some questions with the judges of their replies. -/
def asksOf (questions : List (Instruction × Judge)) :
    List (Option (String × String × List String) × Judge) :=
  questions.map fun question => (question.1.request?, question.2)

theorem questionsOf_append (first second : List Check) :
    questionsOf (first ++ second) = questionsOf first ++ questionsOf second :=
  List.filterMap_append

/-- What is asked does not depend on the place of the reading. -/
theorem Outline.asksOf_checks (outline : Outline) (place : Place) :
    asksOf (questionsOf (outline.checks place)) = outline.asks := by
  induction outline generalizing place with
  | done => rfl
  | note cells rest ih => exact ih place.behindNote
  | action cells judge parts rest ih =>
    exact congrArg (List.cons _) (ih place.behindAction)
  | call scenario rows body rest ihbody ihrest =>
    have hrollUp : questionsOf [place.rollUp scenario] = [] := rfl
    have hbody := ihbody (place.inside scenario rows)
    have hrest := ihrest (place.behindCall body.callCount)
    simp only [asksOf] at hbody hrest
    simp only [checks, asks, asksOf, questionsOf_append, hrollUp, List.append_nil, List.map_append,
      hbody, hrest]

/-! ## Inlined rows -/

variable {scenarios : Registry} {rows flat : List (List String)} {outline : Outline}

/-- Rows with an outline can be inlined. -/
theorem Expands.inlines (h : Expands scenarios rows outline) :
    ∃ flat, Inlines scenarios rows flat := by
  induction h with
  | done => exact ⟨[], .done⟩
  | note hcells _ ih =>
    obtain ⟨flat, hflat⟩ := ih
    exact ⟨_, .keep (fun _ _ hcall => nomatch hcells.symm.trans hcall) hflat⟩
  | action hcells _ ih =>
    obtain ⟨flat, hflat⟩ := ih
    exact ⟨_, .keep (fun _ _ hcall => nomatch hcells.symm.trans hcall) hflat⟩
  | call hcells hexpand _ _ ihbody ihrest =>
    obtain ⟨body, hbody⟩ := ihbody
    obtain ⟨flat, hflat⟩ := ihrest
    exact ⟨_, .call hcells hexpand hbody hflat⟩

/-- Rows that stand one behind the other have their outlines one behind the other. -/
theorem Expands.append {first second : List (List String)} {outline outline' : Outline}
    (hfirst : Expands scenarios first outline) (hsecond : Expands scenarios second outline') :
    ∃ joined, Expands scenarios (first ++ second) joined
      ∧ joined.asks = outline.asks ++ outline'.asks
      ∧ joined.depth = max outline.depth outline'.depth := by
  induction hfirst with
  | done => exact ⟨outline', hsecond, rfl, (Nat.zero_max _).symm⟩
  | note hcells _ ih =>
    obtain ⟨joined, hjoined, hasks, hdepth⟩ := ih
    exact ⟨_, .note hcells hjoined, hasks, hdepth⟩
  | action hcells _ ih =>
    obtain ⟨joined, hjoined, hasks, hdepth⟩ := ih
    exact ⟨_, .action hcells hjoined, congrArg (List.cons _) hasks, hdepth⟩
  | call hcells hexpand hbody _ _ ihrest =>
    obtain ⟨joined, hjoined, hasks, hdepth⟩ := ihrest
    refine ⟨_, .call hcells hexpand hbody hjoined, ?_, ?_⟩
    · simp only [Outline.asks, hasks, List.append_assoc]
    · simp only [Outline.depth, hdepth, Nat.max_assoc]

/-- Inlined rows ask what the rows ask, and they ask it without a call. -/
theorem Inlines.expands (h : Inlines scenarios rows flat) :
    ∀ outline, Expands scenarios rows outline →
      ∃ inlined, Expands scenarios flat inlined ∧ inlined.asks = outline.asks
        ∧ inlined.depth = 0 := by
  induction h with
  | done =>
    rintro outline ⟨⟩
    exact ⟨.done, .done, rfl, rfl⟩
  | @keep cells rest flat hkeep _ ih =>
    intro outline houtline
    cases houtline with
    | note hcells hrest =>
      obtain ⟨inlined, hinlined, hasks, hdepth⟩ := ih _ hrest
      exact ⟨_, .note hcells hinlined, hasks, hdepth⟩
    | action hcells hrest =>
      obtain ⟨inlined, hinlined, hasks, hdepth⟩ := ih _ hrest
      exact ⟨_, .action hcells hinlined, congrArg (List.cons _) hasks, hdepth⟩
    | call hcells => exact absurd hcells (hkeep _ _)
  | call hcells hexpand _ _ ihbody ihrest =>
    intro outline houtline
    obtain ⟨_, _, _, rfl, hexpand', hbody, hrest⟩ := houtline.of_call hcells
    cases hexpand.symm.trans hexpand'
    obtain ⟨body, hbody, hasks, hdepth⟩ := ihbody _ hbody
    obtain ⟨rest, hrest, hasks', hdepth'⟩ := ihrest _ hrest
    obtain ⟨joined, hjoined, hjoinedAsks, hjoinedDepth⟩ := hbody.append hrest
    refine ⟨joined, hjoined, ?_, ?_⟩
    · rw [hjoinedAsks, hasks, hasks']
      rfl
    · rw [hjoinedDepth, hdepth, hdepth', Nat.max_self]

/-! ## Inlined documents -/

/-- Two documents that have the same scenarios, give the same ids to tables and ask the same. -/
structure Document.Mirrors (document inlined : Document) : Prop where
  scenarios : inlined.context.scenarios = document.context.scenarios
  count : inlined.tables.length = document.tables.length
  asks : asksOf (questionsOf inlined.checks) = asksOf (questionsOf document.checks)

namespace Document

variable {defaultKind : String} {depth : Nat} {document next inlined : Document}

/-- A script asks what its outline asks, behind all that was asked before. -/
theorem asksOf_scripted (document : Document) (rows : List (List String)) (outline : Outline) :
    asksOf (questionsOf (document.scripted rows outline).checks)
      = asksOf (questionsOf document.checks) ++ outline.asks := by
  rw [← outline.asksOf_checks (document.place rows)]
  exact (congrArg asksOf (questionsOf_append _ _)).trans List.map_append

/-- Declaring a scenario on both sides asks nothing on either. -/
theorem Mirrors.declared (h : document.Mirrors inlined) (rows : List (List String)) :
    (document.declared rows).Mirrors (inlined.declared rows) := by
  have hid : inlined.nextTableId = document.nextTableId := by
    rw [nextTableId, h.count, nextTableId]
  rw [Document.declared_eq, Document.declared_eq]
  rw [hid]
  cases Scenario.ofRows? document.nextTableId rows with
  | error fault => exact h
  | ok scenario =>
    refine ⟨?_, ?_, h.asks⟩
    · simp only [Context.register, h.scenarios]
    · simp only [List.length_append, h.count]

/-- Scripts that ask the same keep documents alike. -/
theorem Mirrors.scripted (h : document.Mirrors inlined) {outline outline' : Outline}
    (hasks : outline'.asks = outline.asks) (rows flat : List (List String)) :
    (document.scripted rows outline).Mirrors (inlined.scripted flat outline') := by
  refine ⟨h.scenarios, ?_, ?_⟩
  · rw [length_scripted, length_scripted, h.count]
  · rw [asksOf_scripted, asksOf_scripted, h.asks, hasks]

/-- The rows below a script's first are exchanged without a change of its kind. -/
private theorem kindOf_take (hkind : kindOf rows = Script.kindName) (flat : List (List String)) :
    kindOf (rows.take 1 ++ flat) = Script.kindName ∧ (rows.take 1 ++ flat).tail = flat := by
  cases rows with
  | nil => exact absurd hkind (by decide)
  | cons cells rest => exact ⟨hkind, rfl⟩

/-- An inlined table does to a mirroring document what the table does to the document, and no depth
of calls is needed for it. -/
theorem Mirrors.offer (h : document.Mirrors inlined)
    (htable : InlinesTable document.context.scenarios rows flat)
    (hoffer : document.offer defaultKind depth rows = some next) :
    ∃ next', (∀ depth', inlined.offer defaultKind depth' flat = some next')
      ∧ next.Mirrors next' := by
  cases htable with
  | @script flat hkind hflat =>
    obtain ⟨outline, houtline, _, rfl⟩ := outline_of_offer hkind hoffer
    obtain ⟨outline', houtline', hasks, hdepth⟩ := hflat.expands outline houtline
    obtain ⟨hkind', htail⟩ := kindOf_take hkind flat
    rw [← h.scenarios, ← htail] at houtline'
    refine ⟨_, fun depth' => offer_script hkind' houtline' (by omega), h.scripted hasks _ _⟩
  | other hkind =>
    by_cases hscenario : kindOf rows = scenarioKind
    · cases (offer_scenario hscenario).symm.trans hoffer
      exact ⟨_, fun _ => offer_scenario hscenario, h.declared rows⟩
    · cases (offer_other hkind hscenario).symm.trans hoffer
      exact ⟨_, fun _ => offer_other hkind hscenario, h⟩

/-- Documents stay alike when one takes tables and the other their inlined forms. -/
theorem Mirrors.offerAll {tables flats : List (List (List String))} {last : Document}
    (hflats : InlinesTables defaultKind depth document tables flats)
    (h : document.Mirrors inlined)
    (hlast : document.offerAll defaultKind depth tables = some last) :
    ∃ last', (∀ depth', inlined.offerAll defaultKind depth' flats = some last')
      ∧ last.Mirrors last' := by
  induction hflats generalizing inlined with
  | done => cases hlast; exact ⟨inlined, fun _ => rfl, h⟩
  | table htable hoffer _ ih =>
    obtain ⟨next, hnext, hrest⟩ := offerAll_cons_eq_some.mp hlast
    cases hoffer.symm.trans hnext
    obtain ⟨next', hoffer', hmirrors⟩ := h.offer htable hoffer
    obtain ⟨last', hlast', hmirrors'⟩ := ih hmirrors hrest
    exact ⟨last', fun depth' => offerAll_cons_eq_some.mpr ⟨next', hoffer' depth', hlast' depth'⟩,
      hmirrors'⟩

/-- A document that was made of its tables has them with their calls inlined. -/
theorem exists_inlinesTables {tables : List (List (List String))} {last : Document}
    (h : document.offerAll defaultKind depth tables = some last) :
    ∃ flats, InlinesTables defaultKind depth document tables flats := by
  induction tables generalizing document with
  | nil => exact ⟨[], .done⟩
  | cons rows tables ih =>
    obtain ⟨next, hoffer, hrest⟩ := offerAll_cons_eq_some.mp h
    obtain ⟨flats, hflats⟩ := ih hrest
    by_cases hkind : kindOf rows = Script.kindName
    · obtain ⟨outline, houtline, _, _⟩ := outline_of_offer hkind hoffer
      obtain ⟨flat, hflat⟩ := houtline.inlines
      exact ⟨_, .table (.script hkind hflat) hoffer hflats⟩
    · exact ⟨_, .table (.other hkind) hoffer hflats⟩

end Document

/-! ## Observations -/

namespace Fixture

variable {σ : Type}

/-- Recording what is sent changes no answer. -/
theorem answers_recorded (fixture : Fixture σ) (state : σ) (sent instructions : List Instruction) :
    fixture.recorded.answers (state, sent) instructions = fixture.answers state instructions := by
  induction instructions generalizing state sent with
  | nil => rfl
  | cons instruction rest ih => exact congrArg (List.cons _) (ih _ _)

/-- Recording adds what is sent to what was sent before, and leaves the rest of the state alone. -/
theorem after_recorded (fixture : Fixture σ) (state : σ) (sent instructions : List Instruction) :
    fixture.recorded.after (state, sent) instructions
      = (fixture.after state instructions, sent ++ instructions) := by
  induction instructions generalizing state sent with
  | nil => exact congrArg (Prod.mk state) (List.append_nil sent).symm
  | cons instruction rest ih =>
    refine (ih _ _).trans ?_
    rw [List.append_assoc]
    rfl

/-- Recording what is sent changes no verdict. -/
theorem verdicts_recorded (fixture : Fixture σ) (state : σ) (sent : List Instruction)
    (questions : List (Instruction × Judge)) :
    fixture.recorded.verdicts (state, sent) questions = fixture.verdicts state questions := by
  rw [verdicts, answers_recorded]
  rfl

/-- Verdicts are the answers, each judged by its own judge. -/
theorem verdicts_eq_judged (fixture : Fixture σ) (state : σ)
    (questions : List (Instruction × Judge)) :
    fixture.verdicts state questions
      = List.zipWith (fun judge answer => judge.verdict? (Reply.ofAnswer answer))
          (questions.map Prod.snd) (fixture.answers state (questions.map Prod.fst)) := by
  rw [List.zipWith_map_left]
  rfl

/-- To a fixture side that is blind to ids the same asking is worth the same verdicts. -/
theorem IdBlind.verdicts_eq {fixture : Fixture σ} {state : σ} (h : fixture.IdBlind state)
    {questions questions' : List (Instruction × Judge)}
    (hasks : asksOf questions = asksOf questions') :
    fixture.verdicts state questions = fixture.verdicts state questions' := by
  have hrequests := congrArg (List.map Prod.fst) hasks
  have hjudges := congrArg (List.map Prod.snd) hasks
  simp only [asksOf, List.map_map] at hrequests hjudges
  have hanswers : fixture.answers state (questions.map Prod.fst)
      = fixture.answers state (questions'.map Prod.fst) := by
    apply h
    rw [List.map_map, List.map_map]
    exact hrequests
  rw [verdicts_eq_judged, verdicts_eq_judged, hanswers]
  exact congrArg (List.zipWith _ · _) hjudges

end Fixture

namespace Document

variable {σ : Type} {document inlined : Document}

/-- What can be seen of a document follows from what it asks. -/
theorem observe_eq (h : empty.Grows document) (fixture : Fixture σ) (state : σ) :
    document.observe fixture state
      = (Tally.zero.addAll (fixture.verdicts state (questionsOf document.checks))).map fun tally =>
          { requests := (asksOf (questionsOf document.checks)).filterMap Prod.fst
            results := fixture.verdicts state (questionsOf document.checks)
            summary := tally } := by
  have hshown := congrArg (Option.map fun shown : List (Option Verdict) × (σ × List Instruction)
      × Tally => (⟨shown.2.1.2.filterMap Instruction.request?, shown.1, shown.2.2⟩ : Observation))
    (run_shown h fixture.recorded (state, []))
  rw [Option.map_map, Option.map_map, Fixture.verdicts_recorded] at hshown
  have hrequests (questions : List (Instruction × Judge)) :
      (questions.map Prod.fst).filterMap Instruction.request?
        = (asksOf questions).filterMap Prod.fst := by
    have hrequest : Instruction.request? ∘ Prod.fst
        = Prod.fst ∘ fun question : Instruction × Judge => (question.1.request?, question.2) := rfl
    rw [asksOf, List.filterMap_map, List.filterMap_map, hrequest]
  refine hshown.trans (congrArg (Option.map · _) ?_)
  funext tally
  simp only [Function.comp_apply, Fixture.after_recorded, List.nil_append, hrequests]

/-- Calling is inlining. The tables of a document can be inlined, and the document of the inlined
tables, which needs no calls at all, shows a fixture side that is blind to ids the same requests,
results and tally. There is something to see as long as no verdict is given `2 ^ 32` times. -/
theorem observe_inlined {defaultKind : String} {depth : Nat} {tables : List (List (List String))}
    {document : Document} (h : ofTables defaultKind depth tables = some document) :
    (∃ flats, InlinesTables defaultKind depth .empty tables flats)
    ∧ ∀ flats, InlinesTables defaultKind depth .empty tables flats →
      ∃ inlined, (∀ depth', ofTables defaultKind depth' flats = some inlined)
        ∧ ∀ {σ : Type} (fixture : Fixture σ) (state : σ), fixture.IdBlind state →
          inlined.observe fixture state = document.observe fixture state
          ∧ ((∀ verdict, (fixture.verdicts state (questionsOf document.checks)).count (some verdict)
                < UInt32.size) → (document.observe fixture state).isSome) := by
  refine ⟨exists_inlinesTables h, ?_⟩
  intro flats hflats
  obtain ⟨inlined, hinlined, hmirrors⟩ := Mirrors.offerAll hflats ⟨rfl, rfl, rfl⟩ h
  refine ⟨inlined, hinlined, ?_⟩
  intro σ fixture state hblind
  have hgrows : empty.Grows document := grows_offerAll h
  have hgrows' : empty.Grows inlined := grows_offerAll (hinlined 0)
  refine ⟨?_, ?_⟩
  · rw [observe_eq hgrows, observe_eq hgrows', hblind.verdicts_eq hmirrors.asks, hmirrors.asks]
  · intro hcount
    refine Option.isSome_map.trans (run_isSome hgrows fixture.recorded (state, []) ?_)
    intro verdict
    rw [Fixture.verdicts_recorded]
    exact hcount verdict

/-- The nested calls are observed like their inlined bodies, and there is something to observe. -/
theorem observe_inlined_nestedCalls : ∃ document flats inlined,
    ofTables Script.kindName 2 nestedCalls = some document
    ∧ InlinesTables Script.kindName 2 .empty nestedCalls flats
    ∧ ofTables Script.kindName 0 flats = some inlined
    ∧ inlined.observe numbering 0 = document.observe numbering 0
    ∧ (document.observe numbering 0).isSome := by
  obtain ⟨document, h⟩ := Option.isSome_iff_exists.mp
    (show (ofTables Script.kindName 2 nestedCalls).isSome by decide +kernel)
  have hverdicts : (ofTables Script.kindName 2 nestedCalls).map (fun document =>
      numbering.verdicts 0 (questionsOf document.checks))
        = some [some .fail, some .pass, some .fail, some .fail] := by decide +kernel
  rw [h, Option.map_some, Option.some_inj] at hverdicts
  obtain ⟨flats, hflats⟩ := (observe_inlined h).1
  obtain ⟨inlined, hinlined, hsame⟩ := (observe_inlined h).2 flats hflats
  obtain ⟨hobserve, hsome⟩ := hsame numbering 0 (Fixture.idBlind_of_request (fun _ _ => rfl) 0)
  refine ⟨document, flats, inlined, h, hflats, hinlined 0, hobserve, hsome ?_⟩
  rw [hverdicts]
  intro verdict
  cases verdict <;> decide

end Document

end ScenarioTables
