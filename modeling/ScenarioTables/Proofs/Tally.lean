import ScenarioTables.Tally

/-!
# Counting in a tally

A tally read as four natural numbers. A verdict or a whole tally raises each number by an amount of
its own and fails only if a number would reach `2 ^ 32` (`adds_add`, `adds_merge`), and so do
several verdicts (`addAll_isSome`). The verdict of a tally that counts some results is the gravest
among them.
-/

set_option autoImplicit false

namespace ScenarioTables

/-- The gravest of some results: an error, else a failure, else an ignored row, and otherwise a
pass. A missing result counts for nothing. -/
def Verdict.gravest (results : List (Option Verdict)) : Verdict :=
  if some .error ∈ results then .error
  else if some .fail ∈ results then .fail
  else if some .ignore ∈ results then .ignore
  else .pass

namespace Tally

/-- How often a verdict was counted. -/
def countOf (tally : Tally) : Verdict → Nat
  | .pass => tally.right.toNat
  | .fail => tally.wrong.toNat
  | .error => tally.exceptions.toNat
  | .ignore => tally.ignores.toNat

theorem countOf_zero (verdict : Verdict) : zero.countOf verdict = 0 := by
  cases verdict <;> rfl

private theorem addCount_one {count sum : UInt32} (h : addCount count 1 = some sum) :
    sum.toNat = count.toNat + 1 :=
  (addCount_eq_some_iff.mp h).symm

/-- A verdict that was added is counted once more, and no other is. -/
theorem countOf_add {tally sum : Tally} {verdict : Verdict} (h : tally.add verdict = some sum)
    (other : Verdict) :
    sum.countOf other = tally.countOf other + if other = verdict then 1 else 0 := by
  cases verdict <;>
  · obtain ⟨count, hcount, rfl⟩ := Option.map_eq_some_iff.mp h
    cases other <;> simp [countOf, addCount_one hcount]

/-- Adding a verdict fails exactly when its count is the greatest. -/
theorem add_eq_none_iff {tally : Tally} {verdict : Verdict} :
    tally.add verdict = none ↔ UInt32.size ≤ tally.countOf verdict + 1 := by
  cases verdict <;> simp [add, addCount, countOf, UInt32.size]

/-- A tally is what it has counted. -/
theorem eq_of_countOf {first other : Tally}
    (h : ∀ verdict, first.countOf verdict = other.countOf verdict) : first = other := by
  obtain ⟨right, wrong, ignores, exceptions⟩ := first
  rw [Tally.mk.injEq]
  exact ⟨UInt32.toNat_inj.mp (h .pass), UInt32.toNat_inj.mp (h .fail),
    UInt32.toNat_inj.mp (h .ignore), UInt32.toNat_inj.mp (h .error)⟩

theorem countOf_lt (tally : Tally) (verdict : Verdict) : tally.countOf verdict < UInt32.size := by
  cases verdict <;> exact UInt32.toNat_lt _

/-! ## Adding amounts -/

/-- **A change of tallies adds some amounts**: it raises the count of each verdict by its amount,
and fails only if a count would reach `2 ^ 32`. -/
structure Adds (change : Tally → Option Tally) (amount : Verdict → Nat) : Prop where
  counts : ∀ {tally sum : Tally}, change tally = some sum →
    ∀ verdict, sum.countOf verdict = tally.countOf verdict + amount verdict
  room : ∀ {tally : Tally}, (∀ verdict, tally.countOf verdict + amount verdict < UInt32.size) →
    (change tally).isSome

/-- Adding a verdict adds one to its count and nothing to the others. -/
theorem adds_add (verdict : Verdict) :
    Adds (·.add verdict) fun other => if other = verdict then 1 else 0 := by
  refine ⟨countOf_add, ?_⟩
  intro tally hroom
  have hlt := hroom verdict
  rw [if_pos rfl] at hlt
  rw [Option.isSome_iff_ne_none]
  intro hnone
  exact absurd (add_eq_none_iff.mp hnone) (Nat.not_le.mpr hlt)

theorem adds_merge (other : Tally) : Adds (·.merge other) other.countOf := by
  constructor
  · intro tally sum hmerge verdict
    simp only [merge, Option.bind_eq_bind, Option.bind_eq_some_iff, Option.pure_def,
      Option.some.injEq] at hmerge
    obtain ⟨right, hright, wrong, hwrong, ignores, hignores, exceptions, hexceptions, rfl⟩ := hmerge
    cases verdict with
    | pass => exact (addCount_eq_some_iff.mp hright).symm
    | fail => exact (addCount_eq_some_iff.mp hwrong).symm
    | ignore => exact (addCount_eq_some_iff.mp hignores).symm
    | error => exact (addCount_eq_some_iff.mp hexceptions).symm
  · intro tally hroom
    have hright : addCount tally.right other.right = _ := if_pos (hroom .pass)
    have hwrong : addCount tally.wrong other.wrong = _ := if_pos (hroom .fail)
    have hignores : addCount tally.ignores other.ignores = _ := if_pos (hroom .ignore)
    have hexceptions : addCount tally.exceptions other.exceptions = _ := if_pos (hroom .error)
    rw [merge, hright, hwrong, hignores, hexceptions]
    rfl

variable {change : Tally → Option Tally} {amount : Verdict → Nat}

/-- An addition succeeds exactly if every count has room. -/
theorem Adds.isSome_iff (h : Adds change amount) {tally : Tally} :
    (change tally).isSome ↔ ∀ verdict, tally.countOf verdict + amount verdict < UInt32.size := by
  refine ⟨fun hsome verdict => ?_, h.room⟩
  obtain ⟨sum, hsum⟩ := Option.isSome_iff_exists.mp hsome
  rw [← h.counts hsum]
  exact sum.countOf_lt verdict

/-- Two changes that add the same amounts are the same. -/
theorem Adds.unique {other : Tally → Option Tally} (h : Adds change amount)
    (hother : Adds other amount) (tally : Tally) : change tally = other tally := by
  cases hchange : change tally with
  | none =>
    have hfull : ¬ (other tally).isSome := by
      rw [hother.isSome_iff, ← h.isSome_iff, hchange]
      exact Bool.false_ne_true
    exact (Option.not_isSome_iff_eq_none.mp hfull).symm
  | some sum =>
    have hroom := h.isSome_iff.mp (Option.isSome_of_eq_some hchange)
    obtain ⟨sum', hsum'⟩ := Option.isSome_iff_exists.mp (hother.room hroom)
    rw [hsum']
    refine congrArg some (eq_of_countOf fun verdict => ?_)
    rw [h.counts hchange, hother.counts hsum']

/-- Adding nothing changes nothing. -/
theorem adds_nothing : Adds some fun _ => 0 where
  counts := by
    rintro tally _ ⟨⟩ verdict
    rfl
  room _ := rfl

/-- One change after another adds the amounts of both. -/
theorem Adds.bind {next : Tally → Option Tally} {amount' : Verdict → Nat} (h : Adds change amount)
    (hnext : Adds next amount') :
    Adds (fun tally => (change tally).bind next) fun verdict => amount verdict + amount' verdict where
  counts := by
    intro tally sum hsum verdict
    obtain ⟨middle, hmiddle, hlast⟩ := Option.bind_eq_some_iff.mp hsum
    rw [hnext.counts hlast, h.counts hmiddle, Nat.add_assoc]
  room := by
    intro tally hroom
    have hfirst : (change tally).isSome := h.room fun verdict => by
      have := hroom verdict
      omega
    obtain ⟨middle, hmiddle⟩ := Option.isSome_iff_exists.mp hfirst
    rw [hmiddle]
    refine hnext.room fun verdict => ?_
    rw [h.counts hmiddle, Nat.add_assoc]
    exact hroom verdict

/-- What can be added to one tally can be added to every tally that counts no more. -/
theorem Adds.of_le (h : Adds change amount) {small large sum : Tally}
    (hlarge : change large = some sum)
    (hle : ∀ verdict, small.countOf verdict ≤ large.countOf verdict) :
    ∃ sum', change small = some sum' := by
  refine Option.isSome_iff_exists.mp (h.room fun verdict => ?_)
  have hroom := h.isSome_iff.mp (Option.isSome_of_eq_some hlarge) verdict
  have := hle verdict
  omega

/-! ## Verdicts -/

/-- The verdict of a tally that counts some results is the gravest of them. -/
theorem verdict_eq_gravest {tally : Tally} {results : List (Option Verdict)}
    (h : ∀ verdict, tally.countOf verdict = results.count (some verdict)) :
    tally.verdict = Verdict.gravest results := by
  have hpos (count : UInt32) (verdict : Verdict) (hcount : count.toNat = tally.countOf verdict) :
      0 < count ↔ some verdict ∈ results := by
    rw [← List.count_pos_iff, ← h, ← hcount, UInt32.lt_iff_toNat_lt]
    rfl
  simp only [verdict, Verdict.gravest, hpos tally.exceptions .error rfl,
    hpos tally.wrong .fail rfl, hpos tally.ignores .ignore rfl]

/-- Adds those verdicts that were given, one after another. -/
def addAll (tally : Tally) : List (Option Verdict) → Option Tally
  | [] => some tally
  | none :: rest => tally.addAll rest
  | some verdict :: rest => (tally.add verdict).bind (·.addAll rest)

/-- A tally after some verdicts counts each as often as it was given. -/
theorem countOf_addAll {tally sum : Tally} {verdicts : List (Option Verdict)}
    (h : tally.addAll verdicts = some sum) (verdict : Verdict) :
    sum.countOf verdict = tally.countOf verdict + verdicts.count (some verdict) := by
  induction verdicts generalizing tally with
  | nil => cases h; rfl
  | cons first rest ih =>
    cases first with
    | none => simpa only [List.count_cons, reduceCtorEq, beq_iff_eq, if_false, Nat.add_zero] using ih h
    | some given =>
      obtain ⟨next, hnext, hrest⟩ := Option.bind_eq_some_iff.mp h
      have hcount := ih hrest
      have hgiven := countOf_add hnext verdict
      simp only [List.count_cons, beq_iff_eq, Option.some.injEq, eq_comm (a := given)]
      omega

/-- Verdicts can be counted if each was given fewer than `2 ^ 32` times, those counted before
included. -/
theorem addAll_isSome {tally : Tally} {verdicts : List (Option Verdict)}
    (h : ∀ verdict, tally.countOf verdict + verdicts.count (some verdict) < UInt32.size) :
    (tally.addAll verdicts).isSome := by
  induction verdicts generalizing tally with
  | nil => rfl
  | cons first rest ih =>
    cases first with
    | none =>
      refine ih fun verdict => ?_
      simpa only [List.count_cons, reduceCtorEq, beq_iff_eq, if_false, Nat.add_zero] using h verdict
    | some given =>
      cases hadd : tally.add given with
      | none =>
        have hfull := add_eq_none_iff.mp hadd
        have := h given
        simp only [List.count_cons, beq_self_eq_true, if_true] at this
        omega
      | some sum =>
        rw [addAll, hadd, Option.bind_some]
        refine ih fun verdict => ?_
        have hcount := countOf_add hadd verdict
        have := h verdict
        simp only [List.count_cons, beq_iff_eq, Option.some.injEq, eq_comm (a := given)] at this
        omega

end Tally

end ScenarioTables
