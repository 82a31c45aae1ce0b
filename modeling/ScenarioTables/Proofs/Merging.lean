import Mathlib.Algebra.BigOperators.Group.List.Basic
import Mathlib.Algebra.Ring.Nat
import ScenarioTables.Proofs.Tally

/-!
# Merging outcomes

A tally is made of single outcomes and of whole tallies, added one after another to the tally of
nothing. The order makes no difference (`Tally.gather_agrees`): every order gives the same tally, or
overflows, and it overflows exactly if the outcomes of some verdict are too many altogether. Each
addition is checked by itself; that no order can get around the check follows from what an addition
adds (`Tally.Adds`), and so do the counts.

The verdict of what was gathered is the highest verdict among the members, by the rank of a verdict
(`Verdict.rank`). Both a tally and a single outcome have a verdict, and of each it is said once what
the verdict has to do with the counts (`Entry.rank_le_verdict`, `Entry.verdict_counted`).
-/

set_option autoImplicit false

namespace ScenarioTables

/-- The rank of a verdict: an error is above a failure, a failure above an ignored row, and a pass
below all. -/
def Verdict.rank : Verdict → Nat
  | .pass => 0
  | .ignore => 1
  | .fail => 2
  | .error => 3

theorem Verdict.rank_injective {verdict other : Verdict} (h : verdict.rank = other.rank) :
    verdict = other := by
  cases verdict <;> cases other <;> first | rfl | cases h

/-- What is added to a tally in one step. -/
inductive Entry where
  | single (outcome : Verdict)
  | whole (tally : Tally)
  deriving DecidableEq, Repr

namespace Entry

/-- Adds an entry to a tally. -/
def addTo : Entry → Tally → Option Tally
  | .single outcome, tally => tally.add outcome
  | .whole other, tally => tally.merge other

/-- The verdict of a member: that of a single outcome is the outcome itself. -/
def verdict : Entry → Verdict
  | .single outcome => outcome
  | .whole tally => tally.verdict

/-- How often an entry counts a verdict. -/
def amount : Entry → Verdict → Nat
  | .single outcome, verdict => if verdict = outcome then 1 else 0
  | .whole tally, verdict => tally.countOf verdict

/-- How often some entries count a verdict altogether. -/
def total (entries : List Entry) (verdict : Verdict) : Nat :=
  (entries.map (·.amount verdict)).sum

end Entry

namespace Tally

/-- The entries added one after another to a tally. -/
def addEntries (tally : Tally) (entries : List Entry) : Option Tally :=
  entries.foldlM (fun sum entry => entry.addTo sum) tally

/-- The tally of some entries. -/
def gather (entries : List Entry) : Option Tally :=
  zero.addEntries entries

/-- The verdict of a tally is above every verdict that was counted. -/
theorem rank_le_verdict {tally : Tally} {verdict : Verdict} (h : 0 < tally.countOf verdict) :
    verdict.rank ≤ tally.verdict.rank := by
  have hpos {count : UInt32} (hcount : 0 < count.toNat) : 0 < count :=
    UInt32.lt_iff_toNat_lt.mpr hcount
  unfold Tally.verdict
  cases verdict with
  | pass => exact Nat.zero_le _
  | error => simp [hpos h]
  | fail =>
    simp only [hpos h, if_true]
    split <;> decide
  | ignore =>
    simp only [hpos h, if_true]
    split
    · decide
    · split <;> decide

/-- The verdict of a tally was counted, unless it is a pass. -/
theorem verdict_counted (tally : Tally) :
    tally.verdict = .pass ∨ 0 < tally.countOf tally.verdict := by
  unfold Tally.verdict
  split
  next h => exact .inr (UInt32.lt_iff_toNat_lt.mp h)
  next =>
    split
    next h => exact .inr (UInt32.lt_iff_toNat_lt.mp h)
    next =>
      split
      next h => exact .inr (UInt32.lt_iff_toNat_lt.mp h)
      next => exact .inl rfl

end Tally

namespace Entry

/-- An entry adds what it counts. -/
theorem adds_addTo (entry : Entry) : Tally.Adds entry.addTo entry.amount := by
  cases entry with
  | single outcome => exact Tally.adds_add outcome
  | whole tally => exact Tally.adds_merge tally

/-- No verdict that an entry counts ranks above the entry's verdict. -/
theorem rank_le_verdict {entry : Entry} {verdict : Verdict} (h : 0 < entry.amount verdict) :
    verdict.rank ≤ entry.verdict.rank := by
  cases entry with
  | whole tally => exact Tally.rank_le_verdict h
  | single outcome =>
    by_cases heq : verdict = outcome
    · rw [heq]
      exact Nat.le_refl _
    · simp [amount, heq] at h

/-- The verdict of an entry is counted in it, or it is a pass. -/
theorem verdict_counted (entry : Entry) :
    entry.verdict = .pass ∨ 0 < entry.amount entry.verdict := by
  cases entry with
  | whole tally => exact tally.verdict_counted
  | single outcome =>
    right
    simp [amount, verdict]

/-- A verdict is counted among some entries if one of them counts it. -/
theorem total_pos_iff {entries : List Entry} {verdict : Verdict} :
    0 < total entries verdict ↔ ∃ entry ∈ entries, 0 < entry.amount verdict := by
  induction entries with
  | nil => simp [total]
  | cons entry rest ih =>
    have hcons : total (entry :: rest) verdict = entry.amount verdict + total rest verdict := rfl
    rw [hcons, List.exists_mem_cons_iff, ← ih]
    omega

/-- The order of the entries makes no difference to what they count. -/
theorem total_of_perm {entries other : List Entry} (h : other.Perm entries) (verdict : Verdict) :
    total other verdict = total entries verdict := by
  have hamounts := h.map (fun entry => entry.amount verdict)
  exact hamounts.sum_eq

end Entry

namespace Tally

/-- Entries added one after another add what they count altogether. -/
theorem adds_addEntries (entries : List Entry) :
    Adds (·.addEntries entries) (Entry.total entries) := by
  induction entries with
  | nil => exact adds_nothing
  | cons entry rest ih => exact entry.adds_addTo.bind ih

/-- The entries in another order give the same tally, or overflow as well. -/
theorem gather_of_perm {entries other : List Entry} (h : other.Perm entries) :
    gather other = gather entries := by
  have hother := adds_addEntries other
  rw [funext (Entry.total_of_perm h)] at hother
  exact hother.unique (adds_addEntries entries) zero

/-- Gathering overflows exactly if some verdict is counted too often altogether. -/
theorem gather_eq_none_iff {entries : List Entry} :
    gather entries = none ↔ ∃ verdict, 2 ^ 32 - 1 < Entry.total entries verdict := by
  have hroom : (gather entries).isSome
      ↔ ∀ verdict, zero.countOf verdict + Entry.total entries verdict < UInt32.size :=
    (adds_addEntries entries).isSome_iff
  simp only [countOf_zero, Nat.zero_add] at hroom
  rw [← Option.not_isSome_iff_eq_none, hroom, Classical.not_forall]
  refine exists_congr fun verdict => ?_
  have hsize : UInt32.size = 2 ^ 32 := rfl
  omega

section Gathered

variable {entries : List Entry} {tally : Tally}

/-- What was gathered counts every verdict as often as the entries do. -/
theorem countOf_gather (h : gather entries = some tally) (verdict : Verdict) :
    tally.countOf verdict = Entry.total entries verdict := by
  rw [(adds_addEntries entries).counts h, countOf_zero, Nat.zero_add]

/-- No member has a higher verdict than what was gathered. -/
theorem rank_le_gather (h : gather entries = some tally) {entry : Entry} (hentry : entry ∈ entries) :
    entry.verdict.rank ≤ tally.verdict.rank := by
  rcases entry.verdict_counted with hpass | hcounted
  · rw [hpass]
    exact Nat.zero_le _
  · apply rank_le_verdict
    rw [countOf_gather h]
    exact Entry.total_pos_iff.mpr ⟨entry, hentry, hcounted⟩

/-- Some member has the verdict of what was gathered. -/
theorem exists_verdict_gather (h : gather entries = some tally) (hentries : entries ≠ []) :
    ∃ entry ∈ entries, entry.verdict = tally.verdict := by
  rcases tally.verdict_counted with hpass | hcounted
  · -- Where nothing above a pass was gathered every member passes, the first one too.
    obtain ⟨entry, rest, rfl⟩ := List.exists_cons_of_ne_nil hentries
    have hle := rank_le_gather h (List.mem_cons_self (a := entry) (l := rest))
    rw [hpass] at hle ⊢
    exact ⟨entry, List.mem_cons_self, Verdict.rank_injective (Nat.le_zero.mp hle)⟩
  · rw [countOf_gather h] at hcounted
    obtain ⟨entry, hentry, hamount⟩ := Entry.total_pos_iff.mp hcounted
    refine ⟨entry, hentry, Verdict.rank_injective (Nat.le_antisymm ?_ ?_)⟩
    · exact rank_le_gather h hentry
    · exact Entry.rank_le_verdict hamount

end Gathered

/-- **The order of gathering makes no difference.** Single outcomes and tallies in any other order
give the same tally, or overflow in both orders; they overflow exactly if the exact sum of some
count is above `2 ^ 32 - 1`. Otherwise the counts are the exact sums, and the verdict is the highest
of the members' verdicts, a pass if there are none. -/
theorem gather_agrees {entries other : List Entry} (h : other.Perm entries) :
    gather other = gather entries
      ∧ (gather entries = none ↔ ∃ verdict, 2 ^ 32 - 1 < Entry.total entries verdict)
      ∧ ∀ tally, gather entries = some tally →
          (∀ verdict, tally.countOf verdict = Entry.total entries verdict)
            ∧ (entries = [] → tally.verdict = .pass)
            ∧ (entries ≠ [] → ∃ entry ∈ entries, entry.verdict = tally.verdict)
            ∧ ∀ entry ∈ entries, entry.verdict.rank ≤ tally.verdict.rank := by
  refine ⟨gather_of_perm h, gather_eq_none_iff, fun tally htally => ⟨countOf_gather htally, ?_,
    exists_verdict_gather htally, fun entry => rank_le_gather htally⟩⟩
  rintro rfl
  cases htally
  rfl

/-- A full counter of passes overflows wherever the one pass too many stands. Without that pass the
failures of the tally outrank the ignored row, whichever comes first. -/
theorem gather_agrees_fullCount :
    gather [.single .pass, .single .ignore, .whole ⟨4294967295, 2, 0, 0⟩] = none
      ∧ gather [.single .ignore, .single .pass, .whole ⟨4294967295, 2, 0, 0⟩] = none
      ∧ gather [.whole ⟨4294967295, 2, 0, 0⟩, .single .ignore] = some ⟨4294967295, 2, 1, 0⟩
      ∧ ∃ entry ∈ [Entry.single .ignore, .whole ⟨4294967295, 2, 0, 0⟩], entry.verdict = .fail := by
  obtain ⟨hsame, hnone, -⟩ := gather_agrees
    (.swap (Entry.single .ignore) (.single .pass) [.whole ⟨4294967295, 2, 0, 0⟩])
  obtain ⟨hswapped, -, hgathered⟩ :=
    gather_agrees (.swap (Entry.single .ignore) (.whole ⟨4294967295, 2, 0, 0⟩) [])
  have hfull : gather [.single .ignore, .single .pass, .whole ⟨4294967295, 2, 0, 0⟩] = none :=
    hnone.mpr ⟨.pass, by decide⟩
  have hsum : gather [.single .ignore, .whole ⟨4294967295, 2, 0, 0⟩]
      = some ⟨4294967295, 2, 1, 0⟩ := rfl
  obtain ⟨-, -, hmember, -⟩ := hgathered _ hsum
  exact ⟨hsame.trans hfull, hfull, hswapped.trans hsum, hmember (List.cons_ne_nil _ _)⟩

end Tally

end ScenarioTables
