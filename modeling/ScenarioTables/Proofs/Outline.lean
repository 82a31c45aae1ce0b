import ScenarioTables.Scenario.Call
import ScenarioTables.Script

/-!
# The outline of a script

An outline is the tree that expanding the rows of a script unfolds: one node for each row, and below
a call the outline of the called body. `Expands` is the unfolding itself, stated without any limit of
depth, so that a script whose expansion does not end simply has no outline.

Everything that building a script yields is a structural function of its outline and of the place
where the reading starts: the assertions (`checks`), the attached tables (`attached`) and the number
of accounts opened (`callCount`). That building yields just this is the subject of `Proofs.Reading`;
here only the trees are related to one another.
-/

set_option autoImplicit false

namespace ScenarioTables

/-- What the rows of a script amount to, one row after another. -/
inductive Outline where
  /-- No row is left. -/
  | done
  /-- A row that says nothing. -/
  | note (cells : List String) (rest : Outline)
  /-- An action, the parts of its row that spell it, and the judge of its reply. -/
  | action (cells : List String) (judge : Judge) (parts : List String) (rest : Outline)
  /-- A call of a scenario, the expanded rows, and what these rows amount to below their first. -/
  | call (scenario : Scenario) (rows : List (List String)) (body rest : Outline)

/-- Rows expand to an outline while the given scenarios are registered. Arguments are bound by
position, as a script binds them. -/
inductive Expands (scenarios : Registry) : List (List String) → Outline → Prop
  | done : Expands scenarios [] .done
  | note {cells : List String} {rest : List (List String)} {outline : Outline} :
      Script.Row.ofCells scenarios cells = .note → Expands scenarios rest outline →
      Expands scenarios (cells :: rest) (.note cells outline)
  | action {cells parts : List String} {judge : Judge} {rest : List (List String)}
      {outline : Outline} :
      Script.Row.ofCells scenarios cells = .action judge parts → Expands scenarios rest outline →
      Expands scenarios (cells :: rest) (.action cells judge parts outline)
  | call {cells arguments : List String} {scenario : Scenario} {rows rest : List (List String)}
      {body outline : Outline} :
      Script.Row.ofCells scenarios cells = .call scenario arguments →
      scenario.expand (scenario.bindPositional arguments) = .ok rows →
      Expands scenarios rows.tail body → Expands scenarios rest outline →
      Expands scenarios (cells :: rest) (.call scenario rows body outline)

namespace Expands

variable {scenarios : Registry} {cells : List String} {rest : List (List String)}
  {outline : Outline}

/-- The outline of rows that begin with a note. -/
theorem of_note (hcells : Script.Row.ofCells scenarios cells = .note)
    (h : Expands scenarios (cells :: rest) outline) :
    ∃ behind, outline = .note cells behind ∧ Expands scenarios rest behind := by
  cases h with
  | note _ hrest => exact ⟨_, rfl, hrest⟩
  | action hother => cases hcells.symm.trans hother
  | call hother => cases hcells.symm.trans hother

/-- The outline of rows that begin with an action. -/
theorem of_action {judge : Judge} {parts : List String}
    (hcells : Script.Row.ofCells scenarios cells = .action judge parts)
    (h : Expands scenarios (cells :: rest) outline) :
    ∃ behind, outline = .action cells judge parts behind ∧ Expands scenarios rest behind := by
  cases h with
  | note hother => cases hcells.symm.trans hother
  | action hother hrest =>
    cases hcells.symm.trans hother
    exact ⟨_, rfl, hrest⟩
  | call hother => cases hcells.symm.trans hother

/-- The outline of rows that begin with a call. -/
theorem of_call {scenario : Scenario} {arguments : List String}
    (hcells : Script.Row.ofCells scenarios cells = .call scenario arguments)
    (h : Expands scenarios (cells :: rest) outline) :
    ∃ rows body behind, outline = .call scenario rows body behind
      ∧ scenario.expand (scenario.bindPositional arguments) = .ok rows
      ∧ Expands scenarios rows.tail body ∧ Expands scenarios rest behind := by
  cases h with
  | note hother => cases hcells.symm.trans hother
  | action hother => cases hcells.symm.trans hother
  | call hother hexpand hbody hrest =>
    cases hcells.symm.trans hother
    exact ⟨_, _, _, rfl, hexpand, hbody, hrest⟩

end Expands

/-- Where the reading of a script stands. -/
structure Place where
  /-- What the script's interpreter was made for. -/
  assignment : Assignment
  /-- The row that is read next. -/
  row : Nat
  /-- The number of the script's next instruction. -/
  number : Nat
  /-- The number of the next account in the ledger. -/
  account : Nat
  /-- How many tables are attached to the script's table. -/
  position : Nat

namespace Place

/-- The place behind a row that says nothing. -/
def behindNote (place : Place) : Place :=
  { place with row := place.row + 1 }

/-- The place behind an action. -/
def behindAction (place : Place) : Place :=
  { place with row := place.row + 1, number := place.number + 1 }

/-- The place behind a call in whose body `calls` calls are nested. -/
def behindCall (place : Place) (calls : Nat) : Place :=
  { place with
    row := place.row + 1
    account := place.account + 1 + calls
    position := place.position + 1 }

/-- The site of a call made here. -/
def site (place : Place) : CallSite :=
  Script.siteOf place.assignment place.row

/-- The scope of a call made here. -/
def innerScope (place : Place) : Scope :=
  place.account :: place.assignment.scope

/-- The place at which the body of a call made here is read. -/
def inside (place : Place) (scenario : Scenario) (rows : List (List String)) : Place where
  assignment :=
    { kind := place.assignment.kind
      table := place.assignment.table.child place.position
      rows
      tableId := scenario.callId place.site
      parent := some place.assignment.table
      scope := place.innerScope }
  row := 1
  number := 0
  account := place.account + 1
  position := 0

/-- The roll-up of a call made here. -/
def rollUp (place : Place) (scenario : Scenario) : Check :=
  scenario.rollUp place.site place.innerScope (some place.assignment.table)

/-- A place whose scope lists accounts that exist, each one opened after those around it. -/
structure Sound (place : Place) : Prop where
  descending : place.assignment.scope.Pairwise (· > ·)
  opened : ∀ number ∈ place.assignment.scope, number < place.account

theorem Sound.behindNote {place : Place} (h : place.Sound) : place.behindNote.Sound :=
  ⟨h.descending, h.opened⟩

theorem Sound.behindAction {place : Place} (h : place.Sound) : place.behindAction.Sound :=
  ⟨h.descending, h.opened⟩

/-- Behind a call the scope is the same, and more accounts are open. -/
theorem Sound.behindCall {place : Place} (h : place.Sound) (calls : Nat) :
    (place.behindCall calls).Sound := by
  refine ⟨h.descending, ?_⟩
  intro number hnumber
  have := h.opened number hnumber
  simp only [Place.behindCall]
  omega

/-- The account of a call is opened after those around it. -/
theorem Sound.innerScope_descending {place : Place} (h : place.Sound) :
    place.innerScope.Pairwise (· > ·) :=
  List.pairwise_cons.mpr ⟨h.opened, h.descending⟩

/-- The place at which a body is read is sound again. -/
theorem Sound.inside {place : Place} (h : place.Sound) (scenario : Scenario)
    (rows : List (List String)) : (place.inside scenario rows).Sound := by
  refine ⟨h.innerScope_descending, ?_⟩
  intro number hnumber
  simp only [Place.inside] at hnumber ⊢
  rcases List.mem_cons.mp hnumber with rfl | houter
  · exact Nat.lt_succ_self _
  · exact Nat.lt_succ_of_lt (h.opened number houter)

end Place

namespace Outline

/-- The number of calls, nested ones included. -/
def callCount : Outline → Nat
  | .done => 0
  | .note _ rest => rest.callCount
  | .action _ _ _ rest => rest.callCount
  | .call _ _ body rest => 1 + body.callCount + rest.callCount

/-- How deeply calls are nested. -/
def depth : Outline → Nat
  | .done => 0
  | .note _ rest => rest.depth
  | .action _ _ _ rest => rest.depth
  | .call _ _ body rest => max (body.depth + 1) rest.depth

/-- The assertions of rows read from a place on. -/
def checks : Outline → Place → List Check
  | .done, _ => []
  | .note _ rest, place => rest.checks place.behindNote
  | .action _ judge parts rest, place =>
    Script.actionCheck place.assignment place.row place.number judge parts
      :: rest.checks place.behindAction
  | .call scenario rows body rest, place =>
    body.checks (place.inside scenario rows) ++ [place.rollUp scenario]
      ++ rest.checks (place.behindCall body.callCount)

/-- The tables that rows read from number `row` on attach, with the rows that they belong to. -/
def attached : Outline → Nat → List (Nat × Table)
  | .done, _ => []
  | .note _ rest, row => rest.attached (row + 1)
  | .action _ _ _ rest, row => rest.attached (row + 1)
  | .call _ rows body rest, row =>
    (row, ⟨rows, .empty, body.attached 1⟩) :: rest.attached (row + 1)

end Outline

/-- The scope in which an expectation reports or whose verdict it reads. -/
def Expectation.scope : Expectation → Scope
  | .row _ _ _ scope => scope
  | .rollUp scope _ _ _ => scope
  | .external _ => []

/-- An assertion as scripts make them: an action with the judge of a row, or a roll-up that asks for
nothing. No account counts twice in its scope. -/
inductive Check.Proper : Check → Prop
  | row {id actor method : String} {arguments : List String} {judge : Judge} {table : Address}
      {row : Nat} {scope : Scope} :
      scope.Nodup → Proper ⟨.call id actor method arguments, .row judge table row scope⟩
  | rollUp {id : String} {scope : Scope} {table : Option Address} {row : Nat}
      {declaresOutputs : Bool} :
      scope.Nodup → Proper ⟨.noop id, .rollUp scope table row declaresOutputs⟩

/-- The account that a check closes. -/
def Check.closes? : Check → Option Nat
  | ⟨_, .rollUp (number :: _) _ _ _⟩ => some number
  | _ => none

/-- A check that a reading makes between two states of the ledger: its scope is that of the script
below accounts that were opened in between, and it closes no other account than these. -/
structure Check.Within (outer : Scope) (low high : Nat) (check : Check) : Prop where
  proper : Check.Proper check
  suffix : outer <:+ check.expectation.scope
  fresh : ∀ number ∈ check.expectation.scope, number ∈ outer ∨ (low ≤ number ∧ number < high)
  closes : ∀ number, check.closes? = some number → low ≤ number ∧ number < high

theorem Check.Within.widen {outer : Scope} {low low' high high' : Nat} {check : Check}
    (h : check.Within outer low high) (hlow : low' ≤ low) (hhigh : high ≤ high') :
    check.Within outer low' high' := by
  have hrange {number : Nat} (hnumber : low ≤ number ∧ number < high) :
      low' ≤ number ∧ number < high' :=
    ⟨Nat.le_trans hlow hnumber.1, Nat.lt_of_lt_of_le hnumber.2 hhigh⟩
  exact ⟨h.proper, h.suffix, fun number hnumber => (h.fresh number hnumber).imp_right hrange,
    fun number hnumber => hrange (h.closes number hnumber)⟩

namespace Outline

/-- In a scope that lists later accounts first no account stands twice. -/
private theorem nodup_of_descending {scope : Scope} (h : scope.Pairwise (· > ·)) : scope.Nodup :=
  h.imp fun hlt heq => absurd heq (Nat.ne_of_gt hlt)

/-- Everything that a reading makes lies in the scope of its script, in accounts of its own. -/
theorem within_of_mem_checks {outline : Outline} {place : Place} (hplace : place.Sound) :
    ∀ check ∈ outline.checks place,
      check.Within place.assignment.scope place.account (place.account + outline.callCount) := by
  induction outline generalizing place with
  | done => intro check hcheck; cases hcheck
  | note cells rest ih => exact ih hplace.behindNote
  | action cells judge parts rest ih =>
    intro check hcheck
    rcases List.mem_cons.mp hcheck with rfl | hrest
    · exact ⟨.row (nodup_of_descending hplace.descending), List.suffix_rfl, fun _ => Or.inl,
        fun _ hcloses => nomatch hcloses⟩
    · exact ih hplace.behindAction check hrest
  | call scenario rows body rest ihbody ihrest =>
    intro check hcheck
    simp only [checks, List.mem_append, List.mem_singleton] at hcheck
    rcases hcheck with (hbody | rfl) | hrest
    · have hwithin := (ihbody (hplace.inside scenario rows) check hbody).widen
        (Nat.le_succ place.account)
        (show place.account + 1 + body.callCount
            ≤ place.account + (1 + body.callCount + rest.callCount) by omega)
      refine ⟨hwithin.proper, ?_, ?_, hwithin.closes⟩
      · exact (List.suffix_cons place.account place.assignment.scope).trans hwithin.suffix
      · intro number hnumber
        rcases hwithin.fresh number hnumber with hscope | hrange
        · rcases List.mem_cons.mp hscope with rfl | houter
          · right; simp only [callCount]; omega
          · exact Or.inl houter
        · exact Or.inr hrange
    · have hopened : place.account ≤ place.account
          ∧ place.account < place.account + (1 + body.callCount + rest.callCount) := by omega
      refine ⟨.rollUp (nodup_of_descending hplace.innerScope_descending),
        List.suffix_cons _ _, ?_, ?_⟩
      · intro number hnumber
        rcases List.mem_cons.mp hnumber with rfl | houter
        · exact Or.inr hopened
        · exact Or.inl houter
      · rintro number ⟨⟩
        exact hopened
    · have hwithin := (ihrest (hplace.behindCall body.callCount) check hrest).widen
        (show place.account ≤ place.account + 1 + body.callCount by omega)
        (show place.account + 1 + body.callCount + rest.callCount
            ≤ place.account + (1 + body.callCount + rest.callCount) by omega)
      exact ⟨hwithin.proper, hwithin.suffix, hwithin.fresh, hwithin.closes⟩

end Outline

end ScenarioTables
