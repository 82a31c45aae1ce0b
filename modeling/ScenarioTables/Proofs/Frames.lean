import ScenarioTables.Proofs.Reading

/-!
# What building leaves as it is

Building assertions attaches tables and opens accounts, and an interpreter from outside may do more.
A frame names a part of the board: what a view shows of the tables, the document's tally and the
first accounts. It admits an address where attached tables do not show in it.

An interpreter keeps a frame if its reading does, whatever the means of calling are with which it
reads, as long as these keep the frame where it admits the calling table (`Interpreter.Keeps`): what
the calls do is not held against it. From interpreters to calls and back inwards this closes up:
over a factory whose interpreters keep a frame every call does, to every depth
(`Scenario.keeps_call`). The factory of scripts keeps every frame (`Script.keeps_factory`).
-/

set_option autoImplicit false

namespace ScenarioTables

/-- A part of the board. -/
structure Frame where
  /-- What a look at the tables shows. -/
  View : Type
  /-- The part of the tables. -/
  view : List Table → View
  /-- The number of the first accounts. -/
  accounts : Nat

namespace Frame

/-- A frame is on the second board what it is on the first. Accounts behind those of the frame may
have been opened. -/
structure Stays (frame : Frame) (before after : Board) : Prop where
  tables : frame.view after.tables = frame.view before.tables
  counted : after.ledger.document = before.ledger.document
  accounts : ∀ number < frame.accounts, ∀ account, before.ledger.calls[number]? = some account →
    after.ledger.calls[number]? = some account

/-- What is attached to the table at an address, or below it, does not show in the frame. -/
def Admits (frame : Frame) (address : Address) : Prop :=
  ∀ (inner : List Nat) (board : Board) (row : Nat) (child : Table),
    frame.view (board.attach ⟨address.root, address.path ++ inner⟩ row child).tables
      = frame.view board.tables

variable {frame : Frame} {before middle after : Board} {address : Address}

theorem Stays.refl (frame : Frame) (board : Board) : frame.Stays board board :=
  ⟨rfl, rfl, fun _ _ _ h => h⟩

theorem Stays.trans (hfirst : frame.Stays before middle) (hlast : frame.Stays middle after) :
    frame.Stays before after where
  tables := hlast.tables.trans hfirst.tables
  counted := hlast.counted.trans hfirst.counted
  accounts := by
    intro number hnumber account haccount
    exact hlast.accounts number hnumber account (hfirst.accounts number hnumber account haccount)

/-- Opening an account leaves every account that is there. -/
theorem stays_nest (frame : Frame) (board : Board) (scope : Scope) :
    frame.Stays board { board with ledger := (board.ledger.nest scope).2 } := by
  refine ⟨rfl, rfl, ?_⟩
  intro number _ account haccount
  have hlength := (List.getElem?_eq_some_iff.mp haccount).1
  exact (List.getElem?_append_left hlength).trans haccount

/-- Attaching a table where the frame admits it leaves the frame. -/
theorem Admits.stays_attach (h : frame.Admits address) (board : Board) (row : Nat) (child : Table) :
    frame.Stays board (board.attach address row child) := by
  have hhere := h [] board row child
  rw [List.append_nil] at hhere
  exact ⟨hhere, rfl, fun _ _ _ haccount => haccount⟩

/-- What is admitted at a table is admitted at the tables attached to it. -/
theorem Admits.child (h : frame.Admits address) (position : Nat) :
    frame.Admits (address.child position) := by
  intro inner board row child
  have hbelow := h (position :: inner) board row child
  rw [← List.singleton_append, ← List.append_assoc] at hbelow
  exact hbelow

/-- Opening a call at a table that is admitted. -/
theorem Admits.stays_opened {site : CallSite} (h : frame.Admits site.table) (board : Board)
    (child : Table) : frame.Stays board (board.opened site child) :=
  (frame.stays_nest board site.scope).trans (h.stays_attach _ _ _)

end Frame

/-- A step leaves a frame as it is on every board, whether the step stops or not. -/
def Build.Keeps (frame : Frame) {α : Type} (step : Build α) : Prop :=
  ∀ board, frame.Stays board (step board).2

/-- Calls at tables that the frame admits leave it as it is. -/
def Expander.Keeps (frame : Frame) (expander : Expander) : Prop :=
  ∀ (scenario : Scenario) (binding : Binding) (site : CallSite), frame.Admits site.table →
    (expander.call scenario binding site).Keeps frame

/-- An interpreter does nothing to a frame by itself. -/
def Interpreter.Keeps (frame : Frame) (interpreter : Interpreter) : Prop :=
  ∀ expander : Expander, expander.Keeps frame → (interpreter.assertions expander).Keeps frame

/-- No interpreter that is made for a table that the frame admits does anything to the frame by
itself. -/
def Constructor.Keeps (frame : Frame) (constructor : Constructor) : Prop :=
  ∀ (assignment : Assignment) (interpreter : Interpreter), frame.Admits assignment.table →
    constructor assignment = .ok interpreter → interpreter.Keeps frame

/-- What a factory makes does nothing to a frame by itself. -/
def Factory.Keeps (frame : Frame) (factory : Factory) : Prop :=
  Constructor.Keeps frame factory.make

variable {frame : Frame}

/-- A factory keeps what each of its constructors keeps. -/
theorem Factory.keeps_ofList {pairs : List (String × Constructor)}
    (h : ∀ pair ∈ pairs, pair.2.Keeps frame) :
    Factory.Keeps frame (Dictionary.ofList pairs) := by
  intro assignment interpreter htable hmake
  unfold Factory.make at hmake
  split at hmake
  next constructor hfound =>
    exact h _ (Dictionary.mem_of_find?_ofList hfound) assignment interpreter htable hmake
  next => cases hmake

namespace Build

variable {α β : Type}

theorem Keeps.pure (value : α) : (Pure.pure value : Build α).Keeps frame :=
  fun board => .refl frame board

/-- A step that only stops leaves every frame. -/
theorem Keeps.throw (stop : Stop) : (throw stop : Build α).Keeps frame :=
  fun board => .refl frame board

theorem Keeps.bind {step : Build α} {next : α → Build β} (hstep : step.Keeps frame)
    (hnext : ∀ value, (next value).Keeps frame) : (step >>= next).Keeps frame := by
  intro board
  have hfirst := hstep board
  rcases hreached : step board with ⟨answer, after⟩
  rw [hreached] at hfirst
  cases answer with
  | error stop =>
    rw [bind_error hreached]
    exact hfirst
  | ok value =>
    rw [bind_ok hreached]
    exact hfirst.trans (hnext value after)

end Build

/-- Over a factory whose interpreters keep a frame calls keep it, at every table that it admits. -/
theorem Scenario.keeps_call {setting : Setting} (hfactory : setting.factory.Keeps frame)
    (depth : Nat) (scenario : Scenario) (binding : Binding) {site : CallSite}
    (hsite : frame.Admits site.table) : (scenario.call setting depth binding site).Keeps frame := by
  -- The body of a call may call any scenario at any table below, with one level less.
  induction depth generalizing scenario binding site with
  | zero => exact .throw .tooDeep
  | succ depth ih =>
    intro board
    cases hexpand : scenario.expand binding with
    | error fault =>
      rw [Scenario.call_of_expand_error hexpand]
      exact .refl frame board
    | ok rows =>
      cases hmake : setting.factory.make (scenario.bodyAssignment setting site rows board) with
      | error fault =>
        rw [Scenario.call_of_make_error hexpand hmake]
        exact frame.stays_nest board site.scope
      | ok interpreter =>
        have hexpander : Expander.Keeps frame ⟨setting.scenarios, Scenario.call setting depth⟩ :=
          fun scenario binding site hsite => ih scenario binding hsite
        have hinterpreter := hfactory _ interpreter (hsite.child _) hmake _ hexpander
        rw [Scenario.call_of_made hexpand hmake]
        exact (hsite.stays_opened board interpreter.table).trans
          (hinterpreter.bind (fun _ => .pure _) (board.opened site interpreter.table))

namespace Script

/-- Reading the rows of a script does nothing to a frame but by its calls. -/
theorem keeps_assertionsFrom {assignment : Assignment} (htable : frame.Admits assignment.table)
    {expander : Expander} (hexpander : expander.Keeps frame) (row number : Nat)
    (rows : List (List String)) :
    (assertionsFrom assignment expander row number rows).Keeps frame := by
  induction rows generalizing row number with
  | nil => exact .pure []
  | cons cells rest ih =>
    cases hcells : Row.ofCells expander.scenarios cells with
    | note =>
      rw [assertionsFrom_note hcells]
      exact ih (row + 1) number
    | action judge parts =>
      rw [assertionsFrom_action hcells]
      exact (ih (row + 1) (number + 1)).bind fun _ => .pure _
    | call scenario arguments =>
      rw [assertionsFrom_call hcells]
      refine Build.Keeps.bind (hexpander scenario _ _ htable) fun _ => ?_
      exact (ih (row + 1) number).bind fun _ => .pure _

/-- Scripts keep every frame that admits their table. -/
theorem keeps_interpreter {assignment : Assignment} (htable : frame.Admits assignment.table) :
    (interpreter assignment).Keeps frame :=
  fun _ hexpander => keeps_assertionsFrom htable hexpander 1 0 assignment.rows.tail

/-- Whatever script is made, it keeps the frames that admit its table. -/
theorem keeps_constructor : constructor.Keeps frame := by
  intro assignment interpreter htable hmake
  cases hmake
  exact keeps_interpreter htable

/-- What is asked of factories from outside holds of the factory of scripts. -/
theorem keeps_factory : factory.Keeps frame := by
  refine Factory.keeps_ofList ?_
  intro pair hpair
  rw [List.mem_singleton.mp hpair]
  exact keeps_constructor

end Script

/-! ## An example -/

/-- Makes scripts that go by another kind. -/
def masked : Constructor := fun assignment =>
  .ok (Script.interpreter { assignment with kind := "hidden" })

/-- Makes interpreters that refuse all rows and answer for a table of their own. -/
def refusing : Constructor := fun assignment => .ok
  { kind := assignment.kind
    table := Table.ofRows [["refused"]]
    parent := assignment.parent
    assertions := fun _ => throw (.fault (.reported .wording "broken row")) }

/-- A factory whose scripts go by a kind of which it makes no interpreters. Where the default kind
is `picky` the rows of their calls are refused. -/
def pickyFactory : Factory :=
  Dictionary.ofList [(Script.kindName, masked), ("picky", refusing)]

/-- Another kind makes no difference to what a script keeps. -/
theorem keeps_masked : masked.Keeps frame := by
  intro assignment interpreter htable hmake
  cases hmake
  exact Script.keeps_interpreter htable

/-- Who refuses all rows has touched nothing. -/
theorem keeps_refusing : refusing.Keeps frame := by
  intro assignment interpreter _ hmake
  cases hmake
  exact fun _ _ => .throw _

/-- The factory of both keeps every frame. -/
theorem keeps_pickyFactory : pickyFactory.Keeps frame := by
  refine Factory.keeps_ofList (List.forall_mem_cons.mpr ⟨keeps_masked, ?_⟩)
  intro pair hpair
  rw [List.mem_singleton.mp hpair]
  exact keeps_refusing

end ScenarioTables
