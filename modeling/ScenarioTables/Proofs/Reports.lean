import ScenarioTables.Proofs.JsonTexts
import ScenarioTables.Report

/-!
# Reports as texts

A report is its text: reading the text of a report gives the report back (`Report.ofText?_toText`),
so reports with the same text are equal. The argument has two halves. From value to report
(`Report.ofJson?_toJson`): each form that a report is made of is read back as what it is the form of;
a verdict that is there is never taken for one that is missing, because no verdict is written as
`null`. From text to value: the text is one of the JSON texts of the report's value, of which the
reader reads every one, so that a report is found in other layouts and with other escapes too
(`Report.ofText?_of_spells`).

Both rest on the digits of a count, which are a number in the sense of JSON: they have no zero in
front unless the count is zero.
-/

set_option autoImplicit false

namespace ScenarioTables

/-! ## Counts -/

namespace Json

/-- A count is written in its decimal digits. -/
theorem toList_toString (n : Nat) : (toString n).toList = Nat.toDigits 10 n := by
  rw [Nat.toString_eq_repr, Nat.toList_repr]

/-- The digits of a number are digits. -/
theorem isDigit_toDigits (n : Nat) : ∀ c ∈ Nat.toDigits 10 n, c.isDigit = true := fun _ hc =>
  Nat.isDigit_of_mem_toDigits (by decide) (by decide) hc

/-- Only the digit of zero is a zero. -/
theorem digitChar_ne_zero : ∀ n < 10, n ≠ 0 → n.digitChar ≠ '0' := by
  decide

/-- No number but zero begins with a zero. -/
theorem head?_toDigits_ne {n : Nat} (h : n ≠ 0) : (Nat.toDigits 10 n).head? ≠ some '0' := by
  induction n using Nat.strongRecOn with
  | _ n ih =>
    by_cases hlt : n < 10
    · rw [Nat.toDigits_of_lt_base hlt]
      simpa using digitChar_ne_zero n hlt h
    · have hfront := ih (n / 10) (by omega) (by omega)
      rw [Nat.toDigits_of_base_le (by decide) (by omega)]
      rwa [List.head?_append_of_ne_nil _ Nat.toDigits_ne_nil]

/-- Digits without a zero in front are a number. -/
theorem isUnsignedNumber_of_digits {c : Char} {cs : List Char} (hzero : c ≠ '0')
    (hdigits : ∀ d ∈ c :: cs, d.isDigit = true) : isUnsignedNumber (c :: cs) = true := by
  obtain ⟨hc, hbehind⟩ := List.forall_mem_cons.mp hdigits
  have hrest : cs.dropWhile (·.isDigit) = [] := List.dropWhile_eq_nil_iff.mpr hbehind
  have hnumber : isUnsignedNumber (c :: cs)
      = (c.isDigit && isNumberTail (cs.dropWhile (·.isDigit))) := by
    unfold isUnsignedNumber
    split
    next heq => exact absurd (List.cons.inj heq).1 hzero
    next heq =>
      obtain ⟨rfl, rfl⟩ := List.cons.inj heq
      rfl
    next heq => cases heq
  rw [hnumber, hc, hrest]
  rfl

/-- A digit is not a sign. -/
theorem isNumber_of_isDigit {c : Char} {cs : List Char} (hc : c.isDigit = true) :
    isNumber (c :: cs) = isUnsignedNumber (c :: cs) := by
  unfold isNumber
  split
  next heq =>
    rw [(List.cons.inj heq).1] at hc
    cases hc
  next => rfl

/-- The digits of a count are a number. -/
theorem isNumber_toString (n : Nat) : isNumber (toString n).toList = true := by
  rw [toList_toString]
  by_cases hzero : n = 0
  · rw [hzero]
    decide
  · have hhead := head?_toDigits_ne hzero
    have hdigits := isDigit_toDigits n
    obtain ⟨c, cs, hcs⟩ := List.exists_cons_of_ne_nil (Nat.toDigits_ne_nil (n := n) (b := 10))
    rw [hcs] at hhead hdigits ⊢
    rw [isNumber_of_isDigit (hdigits c List.mem_cons_self)]
    exact isUnsignedNumber_of_digits (by simpa using hhead) hdigits

/-- The digits of a count are read as the count. -/
theorem decimal?_toString (n : Nat) : Text.decimal? (toString n).toList = some n := by
  have hvalue : Text.decimalValue (Nat.toDigits 10 n) = n := by
    have hsame : Text.decimalValue (Nat.toDigits 10 n)
        = Nat.ofDigitChars 10 (Nat.toDigits 10 n) 0 := by
      simp only [Text.decimalValue, Nat.ofDigitChars, Nat.mul_comm 10]
      rfl
    exact hsame.trans Nat.ofDigitChars_ten_toDigits
  have hdigits : (Nat.toDigits 10 n).all (·.isDigit) = true :=
    List.all_eq_true.mpr (isDigit_toDigits n)
  rw [toList_toString, Text.decimal?, hvalue, hdigits]
  exact if_pos (by simp [Nat.toDigits_ne_nil])

theorem natBelow?_nat {bound n : Nat} (h : n < bound) : natBelow? bound (nat n) = some n := by
  rw [nat, natBelow?, decimal?_toString]
  simp [h]

/-! ## Lists and missing parts -/

/-- A list is read back if its items are. -/
theorem list?_map {α : Type} {write : α → Json} {read? : Json → Option α}
    (h : ∀ x, read? (write x) = some x) (xs : List α) :
    list? read? (.array (xs.map write)) = some xs := by
  have hread : read? ∘ write = pure := funext h
  have hall : (xs.map write).mapM read? = pure (xs.map id) := by
    rw [List.mapM_map, hread]
    exact List.mapM_pure
  rw [list?, hall, List.map_id]
  rfl

/-- A part that may be missing is read back if the part is, and is not written as `null`. -/
theorem optional?_ofOption {α : Type} {write : α → Json} {read? : Json → Option α}
    (h : ∀ x, read? (write x) = some x) (hnull : ∀ x, write x ≠ .null) (o : Option α) :
    optional? read? (ofOption write o) = some o := by
  cases o with
  | none => rfl
  | some x =>
    rw [ofOption]
    unfold optional?
    split
    next heq => exact absurd heq (hnull x)
    next =>
      rw [h]
      rfl

theorem sound_nat (n : Nat) : Sound (nat n) :=
  .number (isNumber_toString n)

/-- What may be missing is written soundly if it is when it is there. -/
theorem sound_ofOption {α : Type} {write : α → Json} (h : ∀ x, Sound (write x)) (o : Option α) :
    Sound (ofOption write o) := by
  cases o with
  | none => exact .null
  | some x => exact h x

end Json

/-! ## The forms of a report -/

namespace Verdict

/-- A verdict is read back from its name. -/
theorem ofJson?_toJson (verdict : Verdict) : ofJson? verdict.toJson = some verdict :=
  ofCode?_code verdict

/-- A verdict is written as a string. -/
theorem sound_toJson (verdict : Verdict) : Json.Sound verdict.toJson :=
  .string verdict.code

/-- No verdict is written as a missing one. -/
theorem toJson_ne_null (verdict : Verdict) : verdict.toJson ≠ .null :=
  nofun

end Verdict

namespace Tally

theorem countOfJson?_nat (n : UInt32) : countOfJson? (.nat n.toNat) = some n := by
  rw [countOfJson?, Json.natBelow?_nat n.toNat_lt, Option.map_some, UInt32.ofNat_toNat]

/-- A tally is read back, with counts up to the greatest. -/
theorem ofJson?_toJson (tally : Tally) : ofJson? tally.toJson = some tally := by
  simp [ofJson?, toJson, Json.record?, Json.required?, Json.lastField?, countOfJson?_nat]

/-- The counts of a tally are written as numbers. -/
theorem sound_toJson (tally : Tally) : Json.Sound tally.toJson :=
  .object (by simp [Json.sound_nat])

end Tally

namespace TimedOutcome

/-- An outcome is read back, with a verdict or without, and any time. -/
theorem ofJson?_toJson (outcome : TimedOutcome) : ofJson? outcome.toJson = some outcome := by
  have hverdict := Json.optional?_ofOption Verdict.ofJson?_toJson Verdict.toJson_ne_null
    outcome.verdict
  have hlatency : Json.natBelow? UInt64.size (.nat outcome.latencyMs.toNat)
      = some outcome.latencyMs.toNat :=
    Json.natBelow?_nat outcome.latencyMs.toNat_lt
  simp [ofJson?, toJson, Json.record?, Json.required?, Json.lastField?, Json.text?, hverdict,
    hlatency]

/-- An outcome is written soundly, with or without a result. -/
theorem sound_toJson (outcome : TimedOutcome) : Json.Sound outcome.toJson := by
  have hverdict := Json.sound_ofOption Verdict.sound_toJson outcome.verdict
  have htime := Json.sound_nat outcome.latencyMs.toNat
  exact .object (by simp [Json.Sound.string, hverdict, htime])

end TimedOutcome

namespace Report

/-- The value of a report is read as the report. -/
theorem ofJson?_toJson (report : Report) : ofJson? report.toJson = some report := by
  have houtcomes := Json.list?_map TimedOutcome.ofJson?_toJson report.outcomes
  simp [ofJson?, toJson, Json.record?, Json.required?, Json.lastField?, Json.text?,
    Tally.ofJson?_toJson, houtcomes]

/-- A report is written soundly, however many outcomes it has. -/
theorem sound_toJson (report : Report) : Json.Sound report.toJson := by
  have houtcomes : Json.Sound (.array (report.outcomes.map TimedOutcome.toJson)) := .array (by
    intro item hitem
    obtain ⟨outcome, _, rfl⟩ := List.mem_map.mp hitem
    exact outcome.sound_toJson)
  exact .object (by simp [Json.Sound.string, report.summary.sound_toJson, houtcomes])

/-! ## The text of a report -/

/-- The text of a report is a JSON text of its value. -/
theorem spells_toText (report : Report) : Json.SpellsText report.toJson report.toText :=
  Json.spells_pretty report.sound_toJson

/-- A report is found in every JSON text of its value. -/
theorem ofText?_of_spells {report : Report} {text : String}
    (h : Json.SpellsText report.toJson text) : ofText? text = some report := by
  rw [ofText?, Json.read?_of_spells h, Option.bind_some, ofJson?_toJson]

/-- A report is read back from its text. -/
theorem ofText?_toText (report : Report) : ofText? report.toText = some report :=
  ofText?_of_spells report.spells_toText

/-- **A report can be told from its text.** The text is JSON, and it is read as the report; so two
reports have the same text only if they are the same. -/
theorem toText_readsBack :
    (∀ report : Report, Json.SpellsText report.toJson report.toText
        ∧ ofText? report.toText = some report)
      ∧ ∀ report other : Report, report.toText = other.toText ↔ report = other := by
  refine ⟨fun report => ⟨report.spells_toText, report.ofText?_toText⟩, fun report other => ?_⟩
  constructor
  · intro htext
    have hread := report.ofText?_toText
    rw [htext, ofText?_toText] at hread
    exact (Option.some.inj hread).symm
  · exact congrArg toText

end Report

end ScenarioTables
