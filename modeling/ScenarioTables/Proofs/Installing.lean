import ScenarioTables.Installation

/-!
# Installing in a process with a past

What is installed for a process follows from what was done in it before: the first kind that was
offered is the default child kind, the first level that was asked for is the one at which logging
began, and the level in force is the louder of that one and the last (`performAll_eq`).

A configuration is installed in two steps, the logging and then the kind. Only the second can fail,
and it leaves the kind as it was; the first is not taken back. So a refused installation leaves what
beginning the logging alone would have left (`install_refused`). There is a change to be seen where
the logging had not begun (`not_unchanged_by_refusal`), and also where it had begun and a louder
level is asked for than the one at which it first began (`not_unchanged_once_begun`).
-/

set_option autoImplicit false

namespace ScenarioTables

namespace LogLevel

/-- The level that a text asks for. -/
def ofText (text : String) : LogLevel :=
  (parse? text).getD .info

/-- A level that is no louder than another adds nothing to it. -/
theorem louder_of_le {level other : LogLevel} (h : other.rank ≤ level.rank) :
    level.louder other = level :=
  if_neg (Nat.not_lt.mpr h)

end LogLevel

/-- The logging of a process in which these levels were asked for, the earliest first. -/
def Logging.ofLevels : List LogLevel → Option Logging
  | [] => none
  | first :: later => some ⟨first, first.louder (later.getLast?.getD first)⟩

namespace Logging

theorem ofLevels_snoc {first : LogLevel} (later : List LogLevel) (level : LogLevel) :
    ofLevels (first :: later ++ [level]) = some ⟨first, first.louder level⟩ := by
  rw [List.cons_append, ofLevels, List.getLast?_concat, Option.getD_some]

/-- Where nobody asked for more than the first did, the first level is in force. -/
theorem ofLevels_of_le {first : LogLevel} {later : List LogLevel}
    (h : ∀ level ∈ first :: later, level.rank ≤ first.rank) :
    ofLevels (first :: later) = some ⟨first, first⟩ := by
  have hlast : (later.getLast?.getD first).rank ≤ first.rank := by
    cases hlater : later.getLast? with
    | none => exact Nat.le_refl _
    | some level => exact h level (List.mem_cons_of_mem _ (List.mem_of_getLast? hlater))
  rw [ofLevels, LogLevel.louder_of_le hlast]

end Logging

namespace Installation

/-- What can be done to what is installed for a process. -/
inductive Operation where
  | installKind (kind : String)
  | beginLogging (level : String)
  | install (config : Config)
  deriving DecidableEq, Repr

/-- The default child kind that an operation offers. -/
def Operation.kind? : Operation → Option String
  | .installKind kind => some kind
  | .beginLogging _ => none
  | .install config => some config.defaultChildKind

/-- The level of logging that an operation asks for. -/
def Operation.level? : Operation → Option LogLevel
  | .installKind _ => none
  | .beginLogging text => some (.ofText text)
  | .install config => some (.ofText config.logLevel)

/-- What is installed after an operation, whether it fails or not. -/
def perform (installed : Installation) : Operation → Installation
  | .installKind kind => (installed.installKind kind).2
  | .beginLogging text => (installed.beginLogging text).2
  | .install config => (installed.install config).2

/-- What is installed after some operations in a fresh process. -/
def performAll (operations : List Operation) : Installation :=
  operations.foldl perform fresh

/-- What is installed in a process in which these kinds were offered and these levels asked for. -/
def ofPast (kinds : List String) (levels : List LogLevel) : Installation :=
  ⟨kinds.head?, Logging.ofLevels levels⟩

/-- Offering a kind is one more kind in the past. -/
theorem installKind_ofPast (kinds : List String) (levels : List LogLevel) (kind : String) :
    ((ofPast kinds levels).installKind kind).2 = ofPast (kinds ++ [kind]) levels := by
  cases kinds <;> rfl

/-- Beginning the logging, whether it had begun or not, is one more level in the past. -/
theorem beginLogging_ofPast (kinds : List String) (levels : List LogLevel) (text : String) :
    ((ofPast kinds levels).beginLogging text).2 = ofPast kinds (levels ++ [.ofText text]) := by
  cases levels with
  | nil =>
    have hself : Logging.ofLevels [.ofText text] = some ⟨.ofText text, .ofText text⟩ :=
      Logging.ofLevels_of_le fun level hlevel =>
        Nat.le_of_eq (congrArg LogLevel.rank (List.mem_singleton.mp hlevel))
    rw [List.nil_append, ofPast, ofPast, hself]
    rfl
  | cons first later =>
    rw [ofPast, ofPast, Logging.ofLevels_snoc]
    rfl

/-- An operation adds what it offers and what it asks for to the past. -/
theorem perform_ofPast (kinds : List String) (levels : List LogLevel) (operation : Operation) :
    (ofPast kinds levels).perform operation
      = ofPast (kinds ++ operation.kind?.toList) (levels ++ operation.level?.toList) := by
  cases operation with
  | installKind kind =>
    rw [perform, installKind_ofPast, Operation.level?, Option.toList_none, List.append_nil]
    rfl
  | beginLogging text =>
    rw [perform, beginLogging_ofPast, Operation.kind?, Option.toList_none, List.append_nil]
    rfl
  | install config =>
    rw [perform, install, beginLogging_ofPast, installKind_ofPast]
    rfl

/-- The levels that some operations ask for, in order. -/
def levelsOf (operations : List Operation) : List LogLevel :=
  operations.filterMap Operation.level?

/-- **What is installed follows from the past alone.** -/
theorem performAll_eq (operations : List Operation) :
    performAll operations = ofPast (operations.filterMap Operation.kind?) (levelsOf operations) := by
  have hrun (kinds : List String) (levels : List LogLevel) :
      operations.foldl perform (ofPast kinds levels)
        = ofPast (kinds ++ operations.filterMap Operation.kind?) (levels ++ levelsOf operations) := by
    induction operations generalizing kinds levels with
    | nil => rw [List.foldl_nil, levelsOf, List.filterMap_nil, List.filterMap_nil, List.append_nil,
        List.append_nil]
    | cons operation operations ih =>
      rw [List.foldl_cons, perform_ofPast, ih, levelsOf, levelsOf]
      simp only [List.filterMap_cons, List.append_assoc]
      cases operation <;> rfl
  exact hrun [] []

/-- A refused installation leaves what beginning the logging leaves. -/
theorem eq_of_install_error {installed after : Installation} {config : Config} {fault : Fault}
    (h : installed.install config = (.error fault, after)) :
    fault = .kindAlreadyInstalled config.defaultChildKind
      ∧ after = (installed.beginLogging config.logLevel).2 := by
  unfold install installKind at h
  split at h
  next => cases (Prod.mk.inj h).1
  next =>
    obtain ⟨hfault, hafter⟩ := Prod.mk.inj h
    exact ⟨(Except.error.inj hfault).symm, hafter.symm⟩

/-- Beginning the logging leaves the kind. -/
theorem childKind_beginLogging (installed : Installation) (text : String) :
    (installed.beginLogging text).2.childKind = installed.childKind := by
  unfold beginLogging
  split <;> rfl

/-- **A refused installation changes the logging at most.** The default child kind in force stays,
and what is left of the installation is that the logging was begun at the configuration's level.
Where it had not begun before, that level is now in force; where it had, and neither an operation
before nor the configuration asks for more than was asked for first, nothing is changed at all. -/
theorem install_refused {operations : List Operation} {config : Config} {fault : Fault}
    {after : Installation}
    (h : (performAll operations).install config = (.error fault, after)) :
    fault = .kindAlreadyInstalled config.defaultChildKind
      ∧ after.defaultKind = (performAll operations).defaultKind
      ∧ after.logging = ((performAll operations).beginLogging config.logLevel).2.logging
      ∧ ((performAll operations).logging = none → after.level = some (.ofText config.logLevel))
      ∧ ∀ first, (levelsOf operations).head? = some first →
          (∀ level ∈ levelsOf operations ++ [.ofText config.logLevel], level.rank ≤ first.rank) →
          after = performAll operations := by
  obtain ⟨hfault, rfl⟩ := eq_of_install_error h
  refine ⟨hfault, ?_, rfl, ?_, ?_⟩
  · rw [defaultKind, childKind_beginLogging]
    rfl
  · intro hnone
    rw [level, beginLogging, hnone]
    rfl
  · intro first hfirst hquiet
    obtain ⟨later, hlevels⟩ := List.head?_eq_some_iff.mp hfirst
    rw [hlevels] at hquiet
    have hbefore := Logging.ofLevels_of_le fun level hlevel =>
      hquiet level (List.mem_append_left _ hlevel)
    have hafter := Logging.ofLevels_of_le hquiet
    rw [performAll_eq, beginLogging_ofPast, hlevels, ofPast, ofPast, hbefore]
    exact congrArg (Installation.mk _) hafter

/-- A configuration that comes too late and asks for less than `WARN`. -/
theorem install_refused_tooLate :
    let operations : List Operation := [.beginLogging "warn", .installKind "story"]
    ∃ fault after, (performAll operations).install ⟨"script", "error"⟩ = (.error fault, after)
      ∧ fault = .kindAlreadyInstalled "script" ∧ after.defaultKind = "story"
      ∧ after = performAll operations := by
  intro operations
  obtain ⟨hfault, hkind, -, -, hquiet⟩ :=
    install_refused (show (performAll operations).install ⟨"script", "error"⟩ = (.error _, _) from rfl)
  exact ⟨_, _, rfl, hfault, hkind, hquiet .warn (by decide +kernel) (by decide +kernel)⟩

/-- A refused installation can begin the logging. -/
theorem not_unchanged_by_refusal :
    ¬ ∀ (operations : List Operation) (config : Config) (fault : Fault) (after : Installation),
      (performAll operations).install config = (.error fault, after) →
      after.defaultKind = (performAll operations).defaultKind
        ∧ after.level = (performAll operations).level := by
  intro h
  have hlevel := (h [.installKind "story"] .default _ _ rfl).2
  revert hlevel
  decide +kernel

/-- Where the logging has begun, a refused installation can still make it louder. -/
theorem not_unchanged_once_begun :
    ¬ ∀ (operations : List Operation) (config : Config) (fault : Fault) (after : Installation),
      (performAll operations).logging.isSome →
      (performAll operations).install config = (.error fault, after) →
      after.level = (performAll operations).level := by
  intro h
  have hlevel := h [.beginLogging "warn", .installKind "story"] ⟨"script", "debug"⟩ _ _ rfl rfl
  revert hlevel
  decide +kernel

end Installation

end ScenarioTables
