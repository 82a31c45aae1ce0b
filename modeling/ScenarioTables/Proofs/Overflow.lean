import ScenarioTables.Proofs.History

/-!
# Overflow in the ledger

A report is added to the tally of the document and to those of the open contexts around the one it
is made in. After any valid history no context has counted a verdict more often than the document,
so what the document has room for every context has room for, and an operation fails exactly if the
document's count of some verdict would reach `2 ^ 32` (`Ledger.perform_overflows`).

The bound is against the document alone. A context that is closed keeps its tally while a context
inside it goes on counting, so the contexts around a context may well have counted less than it.
-/

set_option autoImplicit false

namespace ScenarioTables

/-- What an operation adds to each tally that it reaches; nothing if the addition overflows. -/
def Operation.change : Operation → Tally → Option Tally
  | .report _ verdict, tally => tally.add verdict
  | .reportAll _ reported, tally => tally.merge reported
  | .nest _, tally | .readVerdict _, tally => some tally

/-- An operation adds the verdicts that it reports. -/
theorem Operation.adds_change (operation : Operation) :
    Tally.Adds operation.change operation.amount := by
  cases operation with
  | report _ verdict => exact Tally.adds_add verdict
  | reportAll _ tally => exact Tally.adds_merge tally
  | nest | readVerdict =>
    constructor
    case counts =>
      rintro tally _ ⟨⟩ verdict
      rfl
    case room =>
      intro tally _
      rfl

/-- An addition overflows exactly if it takes some count beyond `2 ^ 32 - 1`. -/
theorem Operation.change_eq_none_iff {operation : Operation} {tally : Tally} :
    operation.change tally = none
      ↔ ∃ verdict, UInt32.size - 1 < tally.countOf verdict + operation.amount verdict := by
  have hsize : 0 < UInt32.size := by decide
  rw [← Option.not_isSome_iff_eq_none, operation.adds_change.isSome_iff, Classical.not_forall]
  refine exists_congr fun verdict => ?_
  omega

/-- A scope without an account has counted nothing, any other no more than the document. -/
theorem Ledger.Bounded.countOf_tallyOf_le {ledger : Ledger} (h : ledger.Bounded) (scope : Scope)
    (verdict : Verdict) :
    (ledger.tallyOf scope).countOf verdict ≤ ledger.document.countOf verdict := by
  cases scope with
  | nil => exact Nat.le_refl _
  | cons number outer =>
    rw [tallyOf]
    cases haccount : ledger.calls[number]? with
    | none =>
      rw [Option.map_none, Option.getD_none, Tally.countOf_zero]
      exact Nat.zero_le _
    | some account => exact h account (List.mem_of_getElem? haccount) verdict

namespace Accounted

variable {history : History} {operation : Operation} {ledger : Ledger}

/-- An operation fails exactly if the addition to the document's tally overflows. -/
theorem perform_eq_none_iff (h : Accounted history ledger) (hon : operation.On history.contexts) :
    ledger.perform operation = none ↔ operation.change ledger.document = none := by
  have hcount (verdict : Verdict) : History.total (history ++ [operation]) verdict
      = ledger.document.countOf verdict + operation.amount verdict := by
    rw [History.total_concat, h.document]
  have hroom : (operation.change ledger.document).isSome
      ↔ ∀ verdict, History.total (history ++ [operation]) verdict < UInt32.size := by
    simp only [operation.adds_change.isSome_iff, hcount]
  rw [← Option.not_isSome_iff_eq_none (o := operation.change ledger.document), hroom]
  rcases h.perform hon with ⟨answer, next, hnext, haccounted⟩ | ⟨hnone, hfull⟩
  · rw [hnext]
    exact iff_of_false nofun (not_not_intro haccounted.total_lt)
  · exact iff_of_true hnone hfull

end Accounted

/-- **Only the document overflows.** After a valid history no context has counted a verdict more
often than the document. Whatever is done next, in any context: if the document has room for what is
reported, so has each context; and the operation fails exactly if the addition to the document's
tally overflows, that is if a count of the document and what is added to it exceed `2 ^ 32 - 1`. -/
theorem Ledger.perform_overflows (history : History) (hvalid : history.Valid)
    {answers : List (Option Verdict)} {ledger : Ledger}
    (hreached : Ledger.empty.performAll history = some (answers, ledger)) :
    (∀ context ∈ history.contexts, ∀ verdict,
        (ledger.tallyOf context).countOf verdict ≤ ledger.document.countOf verdict)
      ∧ ∀ operation : Operation, operation.On history.contexts →
          ((operation.change ledger.document).isSome →
              ∀ context ∈ history.contexts, (operation.change (ledger.tallyOf context)).isSome)
            ∧ (ledger.perform operation = none ↔ operation.change ledger.document = none)
            ∧ (ledger.perform operation = none ↔ ∃ verdict,
                UInt32.size - 1 < ledger.document.countOf verdict + operation.amount verdict) := by
  have hvalid' : History.Valid ([] ++ history) := hvalid
  obtain ⟨_, last, hlast, haccounted, -⟩ | ⟨hnone, -⟩ := accounted_empty.performAll hvalid'
  · cases hlast.symm.trans hreached
    have hle (context : Scope) := haccounted.bounded.countOf_tallyOf_le context
    refine ⟨fun context _ => hle context, fun operation hon => ⟨?_, ?_, ?_⟩⟩
    · intro hroom context _
      obtain ⟨sum, hsum⟩ := Option.isSome_iff_exists.mp hroom
      exact Option.isSome_iff_exists.mpr (operation.adds_change.of_le hsum (hle context))
    · exact haccounted.perform_eq_none_iff hon
    · rw [haccounted.perform_eq_none_iff hon, Operation.change_eq_none_iff]
  · cases hnone.symm.trans hreached

/-- A call in a call, where the outer verdict is read and the inner call fills the document's count
of passes afterwards. -/
def filledCounts : History :=
  [.nest [], .nest [0], .report [1, 0] .pass, .readVerdict [0],
    .reportAll [1, 0] ⟨4294967294, 0, 3, 0⟩]

/-- The closed outer call has counted one pass, its inner call all of them. One pass more overflows
the document's count though the outer call has room, and it would have in either call. -/
theorem Ledger.perform_overflows_filledCounts :
    ∃ answers ledger, Ledger.empty.performAll filledCounts = some (answers, ledger)
      ∧ (ledger.tallyOf [0]).countOf .pass = 1
      ∧ (ledger.tallyOf [1, 0]).countOf .pass = ledger.document.countOf .pass
      ∧ ledger.perform (.report [0] .pass) = none
      ∧ (∀ context ∈ [[0], [1, 0]],
          (ledger.tallyOf context).countOf .ignore ≤ ledger.document.countOf .ignore)
      ∧ ledger.perform (.report [1, 0] .ignore) ≠ none
      ∧ ∀ context ∈ [[0], [1, 0]],
          ((Operation.report [1, 0] .ignore).change (ledger.tallyOf context)).isSome := by
  have hvalid : filledCounts.Valid := by decide
  refine ⟨_, _, rfl, by decide, by decide, ?_⟩
  obtain ⟨hle, hnext⟩ := Ledger.perform_overflows filledCounts hvalid rfl
  refine ⟨?_, fun context hcontext => hle context hcontext .ignore, ?_, ?_⟩
  · exact (hnext (.report [0] .pass) (by decide)).2.2.mpr ⟨.pass, by decide⟩
  · exact mt (hnext (.report [1, 0] .ignore) (by decide)).2.1.mp (by decide)
  · exact (hnext (.report [1, 0] .ignore) (by decide)).1 (by decide)

end ScenarioTables
