import ScenarioTables.Proofs.Document
import ScenarioTables.Proofs.Frames

/-!
# Tables that are refused

Turning a table into assertions writes to the board of the document, and what was written before a
stop stays written. `Document.step` offers a table and goes on with what is left either way. A table
that is refused is no table of the document, and what is attached to it and the accounts of its
calls go with it; the document's own tables and accounts are as the building left them
(`Document.left`).

`Frame.ofDocument` is this part of the board. Over a factory whose interpreters do nothing to it by
themselves, what is left of a document by a refused table is the document, wherever the building
stopped, and later tables find what they would have found (`Document.session_refused`).
-/

set_option autoImplicit false

namespace ScenarioTables

/-- The tables of a document and what has been counted in it. -/
def Frame.ofDocument (document : Document) : Frame where
  View := List Table
  view tables := tables.take document.tables.length
  accounts := document.accounts

/-- What is attached to the next table does not show in the tables before. -/
theorem Frame.admits_ofDocument (document : Document) :
    (Frame.ofDocument document).Admits ⟨document.tables.length, []⟩ := by
  intro inner board row child
  change (board.tables.modify document.tables.length _).take _ = board.tables.take _
  rw [List.take_modify, List.modify_eq_self (List.length_take_le _ _)]

namespace Document

variable {document next : Document} {factory : Factory} {defaultKind : String} {depth : Nat}
  {rows : List (List String)} {stop : Stop} {board : Board}

/-- What a step comes to: it takes the table, or it refuses the table and leaves the document itself
or what building left of it. -/
theorem step_cases (document : Document) (factory : Factory) (defaultKind : String) (depth : Nat)
    (rows : List (List String)) :
    (∃ next, document.step factory defaultKind depth rows
        = (.ok ⟨document.tables.length, []⟩, next))
      ∨ ∃ stop, document.step factory defaultKind depth rows = (.error stop, document)
        ∨ ∃ interpreter board,
          factory.make (document.assignment (kindOf rows) rows) = .ok interpreter
          ∧ interpreter.assertions (document.expander factory defaultKind depth)
            (document.board.place (Table.ofRows rows)) = (.error stop, board)
          ∧ document.step factory defaultKind depth rows = (.error stop, document.left board) := by
  unfold step
  by_cases hscenario : kindOf rows = scenarioKind
  · simp only [if_pos hscenario]
    cases document.addScenario rows with
    | error fault => exact .inr ⟨_, .inl rfl⟩
    | ok next => exact .inl ⟨next, rfl⟩
  by_cases hsupports : factory.supports (kindOf rows)
  · simp only [if_neg hscenario, if_pos hsupports]
    cases factory.make (document.assignment (kindOf rows) rows) with
    | error fault => exact .inr ⟨_, .inl rfl⟩
    | ok interpreter =>
      rcases hbuilt : interpreter.assertions (document.expander factory defaultKind depth)
        (document.board.place (Table.ofRows rows)) with ⟨answer, board⟩
      simp only [hbuilt]
      cases answer with
      | error stop => exact .inr ⟨stop, .inr ⟨interpreter, board, rfl, hbuilt, rfl⟩⟩
      | ok checks => exact .inl ⟨_, rfl⟩
  · simp only [if_neg hscenario, if_neg hsupports]
    exact .inr ⟨_, .inl rfl⟩

/-- Where building has left the frame of a document, all of the document is left. -/
theorem left_eq {table : Table}
    (h : (Frame.ofDocument document).Stays (document.board.place table) board) :
    document.left board = document := by
  have htables : board.tables.take document.tables.length = document.tables :=
    h.tables.trans List.take_left
  have hcalls : board.ledger.calls.take document.accounts = document.context.ledger.calls := by
    apply List.ext_getElem?
    intro number
    by_cases hnumber : number < document.accounts
    · rw [List.getElem?_take_of_lt hnumber]
      have haccount := List.getElem?_eq_getElem (l := document.context.ledger.calls) hnumber
      rw [haccount]
      exact h.accounts number hnumber _ haccount
    · have hbehind := Nat.le_of_not_lt hnumber
      rw [List.getElem?_take_eq_none hbehind, List.getElem?_eq_none hbehind]
  have hcounted : board.ledger.document = document.context.ledger.document := h.counted
  have hledger : (⟨board.ledger.document, board.ledger.calls.take document.accounts⟩ : Ledger)
      = document.context.ledger := by rw [hcounted, hcalls]
  exact congrArg document.withBoard (Board.ext htables hledger : _ = document.board)

/-- Over a factory that keeps the frame of a document a table that cannot be added leaves the
document as it was. -/
theorem step_of_refused (hfactory : factory.Keeps (.ofDocument document))
    (h : document.addTable factory defaultKind depth rows = .error stop) :
    document.step factory defaultKind depth rows = (.error stop, document) := by
  unfold addTable at h
  rcases document.step_cases factory defaultKind depth rows with ⟨next, hstep⟩ |
    ⟨other, hstep | ⟨interpreter, board, hmake, hbuilt, hstep⟩⟩
  · rw [hstep] at h
    cases h
  · rw [hstep] at h
    cases h
    exact hstep
  rw [hstep] at h
  cases h
  have hexpander : (document.expander factory defaultKind depth).Keeps (.ofDocument document) :=
    fun scenario binding _ hsite => Scenario.keeps_call hfactory depth scenario binding hsite
  have hstays := hfactory _ interpreter (Frame.admits_ofDocument document) hmake _ hexpander
    (document.board.place (Table.ofRows rows))
  rw [hbuilt] at hstays
  rw [hstep, left_eq hstays]

/-- **A refused table is as if it had never been offered.** In every document, and over every
factory whose interpreters do nothing by themselves to the tables of the document and to what has
been counted: whatever stops the adding of a table, and wherever in it, the document that is left is
the document. So whatever tables are offered later, the answers are those that the document would
have given without the refused table, and the session comes to the same document, with the same
assertions under the same ids and the same run. -/
theorem session_refused (hfactory : factory.Keeps (.ofDocument document))
    (h : document.addTable factory defaultKind depth rows = .error stop) :
    document.step factory defaultKind depth rows = (.error stop, document)
      ∧ ∀ (tables : List (List (List String))) (answers : List (Except Stop Address))
          (last : Document), document.session factory defaultKind depth tables = (answers, last) →
          document.session factory defaultKind depth (rows :: tables)
            = (.error stop :: answers, last) := by
  have hstep := step_of_refused hfactory h
  refine ⟨hstep, ?_⟩
  intro tables answers last hsession
  rw [session, hstep]
  simp only [hsession]

/-- A document with a scenario that can be called. -/
def greeted : Document := empty.declared [["scenario", "greet"], ["say hello"]]

/-- A script of which the third row is refused, after an action has been read and a table attached,
leaves a document that numbers and answers as if the script had not been there. -/
theorem session_refused_greeted :
    greeted.addTable pickyFactory "picky" 1 [["script"], ["open door"], ["greet"]]
        = .error (.fault (.reported .wording "broken row"))
      ∧ ∃ last, greeted.session pickyFactory "picky" 1
            [[["script"], ["open door"], ["greet"]], [["script"], ["leave"]]]
          = ([.error (.fault (.reported .wording "broken row")), .ok ⟨1, []⟩], last)
        ∧ (last.checks.map fun check => check.instruction.id) = ["table_1_0"] := by
  have hrefused : greeted.addTable pickyFactory "picky" 1 [["script"], ["open door"], ["greet"]]
      = .error (.fault (.reported .wording "broken row")) := rfl
  obtain ⟨-, hlater⟩ := session_refused keeps_pickyFactory hrefused
  have hanswers : (greeted.session pickyFactory "picky" 1 [[["script"], ["leave"]]]).1
      = [.ok ⟨1, []⟩] := rfl
  have hids : ((greeted.session pickyFactory "picky" 1 [[["script"], ["leave"]]]).2.checks.map
      fun check => check.instruction.id) = ["table_1_0"] := by decide +kernel
  exact ⟨hrefused, _, hlater _ _ _ (Prod.ext hanswers rfl), hids⟩

end Document

end ScenarioTables
