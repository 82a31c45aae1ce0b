import ScenarioTables.Ledger
import ScenarioTables.Proofs.Tally

/-!
# Reporting in the ledger

What is reported in a scope is added once to the tally of the document and once to every open
account of the scope, and nothing else changes (`update_eq`). No account counts more than the
document does (`Bounded`), so a report overflows exactly when the document's tally does
(`update_eq_none`).
-/

set_option autoImplicit false

namespace ScenarioTables

/-- The account with a changed tally, if it is open. -/
def CallAccount.changed (change : Tally → Option Tally) (account : CallAccount) : CallAccount :=
  if account.closed then account
  else { account with tally := (change account.tally).getD account.tally }

/-- The account with one more verdict, if it is open. -/
def CallAccount.count (verdict : Verdict) (account : CallAccount) : CallAccount :=
  account.changed (·.add verdict)

namespace Ledger

/-- No account has counted more than the document. -/
def Bounded (ledger : Ledger) : Prop :=
  ∀ account ∈ ledger.calls, ∀ verdict,
    account.tally.countOf verdict ≤ ledger.document.countOf verdict

/-- The ledger after a change in a scope that does not overflow. -/
def updated (ledger : Ledger) (scope : Scope) (change : Tally → Option Tally) (document : Tally) :
    Ledger :=
  { document
    calls := ledger.calls.mapIdx fun number account =>
      if number ∈ scope then account.changed change else account }

/-- The ledger after a report that does not overflow. -/
def reported (ledger : Ledger) (scope : Scope) (verdict : Verdict) (document : Tally) : Ledger :=
  ledger.updated scope (·.add verdict) document

section Update

variable {ledger : Ledger} {scope : Scope} {document : Tally} {change : Tally → Option Tally}
  {amount : Verdict → Nat}

/-- An update changes the accounts of its scope and no others. -/
theorem getElem?_updated (ledger : Ledger) (scope : Scope) (change : Tally → Option Tally)
    (document : Tally) (number : Nat) : (ledger.updated scope change document).calls[number]?
      = (ledger.calls[number]?).map fun account =>
          if number ∈ scope then account.changed change else account := by
  simp only [updated, List.getElem?_mapIdx]

/-- A ledger with the right document and the right accounts is the updated one. -/
private theorem eq_updated {other : Ledger} (hdocument : other.document = document)
    (hcalls : ∀ number, other.calls[number]? = (ledger.calls[number]?).map fun account =>
      if number ∈ scope then account.changed change else account) :
    other = ledger.updated scope change document := by
  obtain ⟨tally, calls⟩ := other
  cases hdocument
  have hsame : calls = (ledger.updated scope change tally).calls := by
    apply List.ext_getElem?
    intro number
    rw [hcalls, getElem?_updated]
  rw [hsame]
  rfl

/-- The update of one account more, by what stands under its number and elsewhere. -/
private theorem eq_updated_cons {other : Ledger} {number : Nat} {outer : Scope}
    (hdocument : other.document = document)
    (hhere : other.calls[number]? = (ledger.calls[number]?).map (·.changed change))
    (helse : ∀ index, number ≠ index →
      other.calls[index]? = (ledger.updated outer change document).calls[index]?) :
    other = ledger.updated (number :: outer) change document := by
  refine eq_updated hdocument fun index => ?_
  by_cases hindex : number = index
  · subst hindex
    simp only [hhere, List.mem_cons_self, if_true]
  · rw [helse index hindex, getElem?_updated]
    simp only [List.mem_cons, Ne.symm hindex, false_or]

/-- One more account on the way inwards. It has not been changed before, and it has room for what
is added because the document had. -/
private theorem updateCall_updated (hadds : Tally.Adds change amount) (hbounded : ledger.Bounded)
    {number : Nat} {outer : Scope} (hnumber : number ∉ outer)
    (hchange : change ledger.document = some document) :
    (ledger.updated outer change document).updateCall number change
      = some (ledger.updated (number :: outer) change document) := by
  have hhere : (ledger.updated outer change document).calls[number]? = ledger.calls[number]? := by
    simp only [getElem?_updated, if_neg hnumber, Option.map_id']
  unfold updateCall
  rw [hhere]
  cases haccount : ledger.calls[number]? with
  | none =>
    refine congrArg some (eq_updated_cons rfl ?_ fun index _ => rfl)
    rw [hhere, haccount]
    rfl
  | some account =>
    by_cases hclosed : account.closed = true
    · simp only [if_pos hclosed]
      refine congrArg some (eq_updated_cons rfl ?_ fun index _ => rfl)
      rw [hhere, haccount, Option.map_some, CallAccount.changed, if_pos hclosed]
    · obtain ⟨tally, htally⟩ := hadds.of_le hchange
        (hbounded account (List.mem_of_getElem? haccount))
      have hlength : number < (ledger.updated outer change document).calls.length := by
        rw [← hhere] at haccount
        exact (List.getElem?_eq_some_iff.mp haccount).1
      simp only [if_neg hclosed, htally, Option.map_some]
      refine congrArg some (eq_updated_cons rfl ?_ fun index hindex => List.getElem?_set_ne hindex)
      rw [List.getElem?_set_self hlength, haccount, Option.map_some, CallAccount.changed,
        if_neg hclosed, htally, Option.getD_some]

/-- A change for which the document has room is made all the way inwards. -/
theorem update_eq (hadds : Tally.Adds change amount) (hbounded : ledger.Bounded)
    (hscope : scope.Nodup) (hchange : change ledger.document = some document) :
    ledger.update change scope = some (ledger.updated scope change document) := by
  induction scope with
  | nil =>
    rw [update, hchange]
    refine congrArg some (eq_updated rfl fun number => ?_)
    simp only [List.not_mem_nil, if_false, Option.map_id']
  | cons number outer ih =>
    rw [List.nodup_cons] at hscope
    rw [update, ih hscope.2, Option.bind_some]
    exact updateCall_updated hadds hbounded hscope.1 hchange

/-- A change for which the document has no room overflows. -/
theorem update_eq_none (hchange : change ledger.document = none) :
    ledger.update change scope = none := by
  induction scope with
  | nil => rw [update, hchange, Option.map_none]
  | cons number outer ih => rw [update, ih, Option.bind_none]

/-- An account that is changed with the document still counts no more. -/
private theorem countOf_changed_le (hadds : Tally.Adds change amount) {account : CallAccount}
    (h : ∀ verdict, account.tally.countOf verdict ≤ ledger.document.countOf verdict)
    (hchange : change ledger.document = some document) (verdict : Verdict) :
    (account.changed change).tally.countOf verdict ≤ document.countOf verdict := by
  have hdocument := hadds.counts hchange verdict
  have hbefore := h verdict
  unfold CallAccount.changed
  split
  next => omega
  next =>
    obtain ⟨tally, htally⟩ := hadds.of_le hchange h
    have hcount := hadds.counts htally verdict
    simp only [htally, Option.getD_some]
    omega

theorem Bounded.updated (hbounded : ledger.Bounded) (hadds : Tally.Adds change amount)
    (hchange : change ledger.document = some document) (scope : Scope) :
    (ledger.updated scope change document).Bounded := by
  intro account haccount verdict
  obtain ⟨number, hnumber, rfl⟩ := List.mem_mapIdx.mp haccount
  have hbefore := hbounded ledger.calls[number] (List.getElem_mem hnumber)
  split
  next => exact countOf_changed_le hadds hbefore hchange verdict
  next =>
    have hdocument := hadds.counts hchange verdict
    exact Nat.le_trans (hbefore verdict) (by simp only [Ledger.updated]; omega)

end Update

/-! ## One verdict -/

/-- A report is counted in the accounts of its scope and in no others. -/
theorem getElem?_reported (ledger : Ledger) (scope : Scope) (verdict : Verdict) (document : Tally)
    (number : Nat) : (ledger.reported scope verdict document).calls[number]?
      = (ledger.calls[number]?).map fun account =>
          if number ∈ scope then account.count verdict else account :=
  getElem?_updated ledger scope (·.add verdict) document number

variable {ledger : Ledger} {scope : Scope} {verdict : Verdict} {document : Tally}

/-- A report for which the document has room is counted all the way inwards. -/
theorem report_eq (hbounded : ledger.Bounded) (hscope : scope.Nodup)
    (hadd : ledger.document.add verdict = some document) :
    ledger.report scope verdict = some (ledger.reported scope verdict document) :=
  update_eq (Tally.adds_add verdict) hbounded hscope hadd

/-- A report for which the document has no room overflows. -/
theorem report_eq_none (hadd : ledger.document.add verdict = none) :
    ledger.report scope verdict = none :=
  update_eq_none hadd

theorem Bounded.reported (hbounded : ledger.Bounded)
    (hadd : ledger.document.add verdict = some document) (scope : Scope) :
    (ledger.reported scope verdict document).Bounded :=
  hbounded.updated (Tally.adds_add verdict) hadd scope

/-! ## Closing -/

/-- Reading a verdict closes one account and changes no tally. -/
theorem getElem?_close (ledger : Ledger) (number index : Nat) (outer : Scope) :
    (ledger.close (number :: outer)).calls[index]?
      = (ledger.calls[index]?).map fun account =>
          if number = index then { account with closed := true } else account := by
  simp only [close, List.getElem?_modify]
  split <;> rfl

/-- Closing leaves the document's tally. -/
theorem close_document (ledger : Ledger) (scope : Scope) :
    (ledger.close scope).document = ledger.document := by
  cases scope <;> rfl

theorem Bounded.close (hbounded : ledger.Bounded) (scope : Scope) :
    (ledger.close scope).Bounded := by
  cases scope with
  | nil => exact hbounded
  | cons number outer =>
    intro account haccount other
    obtain ⟨index, hindex⟩ := List.getElem?_of_mem haccount
    rw [getElem?_close] at hindex
    obtain ⟨before, hbefore, rfl⟩ := Option.map_eq_some_iff.mp hindex
    have := hbounded before (List.mem_of_getElem? hbefore) other
    split <;> exact this

end Ledger

end ScenarioTables
