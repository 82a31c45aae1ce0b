import ScenarioTables.Tally

/-!
# The ledger of a document

Every verdict is counted for the document and for each scenario call it lies in. A scope names one
such account by its lineage: the number of the innermost call first, then the number of the call
around it, and so on; the empty scope is the document itself. A report travels from the document
inwards and is counted at every account on the way, except at one whose verdict has been read: that
account is closed and keeps its tally.
-/

set_option autoImplicit false

namespace ScenarioTables

/-- An account by its lineage, innermost call first; the document is the empty scope. -/
abbrev Scope := List Nat

/-- The account of one scenario call. -/
structure CallAccount where
  /-- What was reported in the call while the account was open. -/
  tally : Tally
  /-- Whether the call's verdict has been read. -/
  closed : Bool
  deriving DecidableEq, Repr

/-- The accounts of a document and of the scenario calls in it. -/
structure Ledger where
  /-- Everything that was reported. -/
  document : Tally
  /-- The accounts of the calls by number. -/
  calls : List CallAccount
  deriving DecidableEq, Repr

namespace Ledger

/-- The ledger of a document in which nothing has happened. -/
def empty : Ledger := ⟨.zero, []⟩

/-- Opens the account of a call inside the given scope. -/
def nest (ledger : Ledger) (scope : Scope) : Scope × Ledger :=
  (ledger.calls.length :: scope, { ledger with calls := ledger.calls ++ [⟨.zero, false⟩] })

/-- Changes the tally of one call's account, unless the account is closed. -/
def updateCall (ledger : Ledger) (number : Nat) (change : Tally → Option Tally) : Option Ledger :=
  match ledger.calls[number]? with
  | none => some ledger
  | some account =>
    if account.closed then some ledger
    else (change account.tally).map fun tally =>
      { ledger with calls := ledger.calls.set number { account with tally := tally } }

/-- Changes the tallies of a scope and of every scope around it, the outermost first. -/
def update (ledger : Ledger) (change : Tally → Option Tally) : Scope → Option Ledger
  | [] => (change ledger.document).map fun tally => { ledger with document := tally }
  | number :: outer => (ledger.update change outer).bind (·.updateCall number change)

/-- Reports one verdict in a scope. -/
def report (ledger : Ledger) (scope : Scope) (verdict : Verdict) : Option Ledger :=
  ledger.update (·.add verdict) scope

/-- Reports a pass in a scope. -/
def reportPassed (ledger : Ledger) (scope : Scope) : Option Ledger :=
  ledger.report scope .pass

/-- Reports a failure in a scope. -/
def reportFailed (ledger : Ledger) (scope : Scope) : Option Ledger :=
  ledger.report scope .fail

/-- Reports an error in a scope. -/
def reportErrored (ledger : Ledger) (scope : Scope) : Option Ledger :=
  ledger.report scope .error

/-- Reports in a scope that something was ignored. -/
def reportIgnored (ledger : Ledger) (scope : Scope) : Option Ledger :=
  ledger.report scope .ignore

/-- Reports a whole tally in a scope. -/
def reportAll (ledger : Ledger) (scope : Scope) (tally : Tally) : Option Ledger :=
  ledger.update (·.merge tally) scope

/-- The tally of a scope. -/
def tallyOf (ledger : Ledger) : Scope → Tally
  | [] => ledger.document
  | number :: _ => (ledger.calls[number]?.map (·.tally)).getD .zero

/-- Whether the verdict of a scope has been read; the document is never closed. -/
def isClosed (ledger : Ledger) : Scope → Bool
  | [] => false
  | number :: _ => (ledger.calls[number]?.map (·.closed)).getD false

/-- Closes the account of a call. -/
def close (ledger : Ledger) : Scope → Ledger
  | [] => ledger
  | number :: _ =>
    { ledger with
      calls := ledger.calls.modify number fun account => { account with closed := true } }

/-- Reads the verdict of a scope and closes its account. -/
def readVerdict (ledger : Ledger) (scope : Scope) : Verdict × Ledger :=
  ((ledger.tallyOf scope).verdict, ledger.close scope)

end Ledger

end ScenarioTables
