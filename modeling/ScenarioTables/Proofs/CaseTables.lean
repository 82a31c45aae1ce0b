import ScenarioTables.Text.Case
import ScenarioTables.Text.Word

/-!
# What the case tables say of every character

Changing the case of a character again changes nothing (`upperChar_of_mem`, `lowerChar_of_mem`). But
it can lead out of words: the upper case of `ǰ` is a `J` and a mark above it, which is no letter.
The letters to which this happens in upper case are listed (`fraying`); in lower case it happens to
`İ` alone.

All of this rests on the tables, which are checked by evaluation. To compare many code points at
once a set of them is written as a number that has one bit for each (`unionBits`).
-/

set_option autoImplicit false

namespace ScenarioTables.Text

/-! ## Sets of code points as numbers -/

section Bits

variable {α : Type} {n : Nat}

/-- The union of the sets that some things stand for. -/
def foldBits (bitsOf : α → Nat) (things : List α) : Nat :=
  things.foldr (fun thing bits => bits ||| bitsOf thing) 0

/-- The first fifty things, the next fifty and so on, as often as said, and what is left. -/
def portions : Nat → List α → List (List α)
  | 0, things => [things]
  | count + 1, things => things.take 50 :: portions count (things.drop 50)

/-- The union of the sets that some things stand for, in portions: to evaluate a union is to go as
deep as it has parts. -/
def unionBits (bitsOf : α → Nat) (things : List α) : Nat :=
  foldBits (foldBits bitsOf) (portions 15 things)

/-- The code points of a range. -/
def rangeBits (range : Nat × Nat) : Nat :=
  ((1 <<< (range.2 + 1 - range.1)) - 1) <<< range.1

/-- A set with an offset added to its members. -/
def shiftBits (bits : Nat) : Int → Nat
  | .ofNat k => bits <<< k
  | .negSucc k => bits >>> (k + 1)

/-- A number is in a union if it is in one of the sets. -/
theorem testBit_foldBits {bitsOf : α → Nat} {things : List α} :
    (foldBits bitsOf things).testBit n = true ↔ ∃ thing ∈ things, (bitsOf thing).testBit n = true := by
  induction things with
  | nil => simp [foldBits]
  | cons thing things ih =>
    rw [foldBits, List.foldr_cons, Nat.testBit_or, Bool.or_eq_true, or_comm]
    simp only [List.mem_cons, exists_eq_or_imp]
    exact or_congr_right ih

/-- Cutting a list into portions loses nothing. -/
theorem flatten_portions (count : Nat) (things : List α) : (portions count things).flatten = things := by
  induction count generalizing things with
  | zero => exact List.append_nil things
  | succ count ih => rw [portions, List.flatten_cons, ih, List.take_append_drop]

/-- A number is in a union taken in portions if it is in one of the sets. -/
theorem testBit_unionBits {bitsOf : α → Nat} {things : List α} :
    (unionBits bitsOf things).testBit n = true
      ↔ ∃ thing ∈ things, (bitsOf thing).testBit n = true := by
  rw [unionBits, testBit_foldBits]
  simp only [testBit_foldBits]
  constructor
  · rintro ⟨portion, hportion, thing, hthing, hn⟩
    have hmem := List.mem_flatten.mpr ⟨portion, hportion, hthing⟩
    exact ⟨thing, flatten_portions 15 things ▸ hmem, hn⟩
  · rintro ⟨thing, hthing, hn⟩
    rw [← flatten_portions 15 things] at hthing
    obtain ⟨portion, hportion, hthing⟩ := List.mem_flatten.mp hthing
    exact ⟨portion, hportion, thing, hthing, hn⟩

/-- A set of single points has these points. -/
theorem testBit_points {points : List Nat} :
    (unionBits (1 <<< ·) points).testBit n = true ↔ n ∈ points := by
  simp only [testBit_unionBits, Nat.one_shiftLeft, Nat.testBit_two_pow, decide_eq_true_eq,
    exists_eq_right]

theorem testBit_points_eq_false {points : List Nat} :
    (unionBits (1 <<< ·) points).testBit n = false ↔ n ∉ points := by
  rw [← Bool.not_eq_true, testBit_points]

/-- A range has the numbers from its first to its last. -/
theorem testBit_rangeBits {range : Nat × Nat} :
    (rangeBits range).testBit n = true ↔ range.1 ≤ n ∧ n ≤ range.2 := by
  rw [rangeBits, Nat.one_shiftLeft, Nat.testBit_shiftLeft, Nat.testBit_two_pow_sub_one,
    Bool.and_eq_true, decide_eq_true_eq, decide_eq_true_eq]
  omega

/-- Moving a set moves each of its members. -/
theorem testBit_shiftBits {bits : Nat} {offset : Int} (h : bits.testBit n = true)
    (hpos : 0 ≤ n + offset) : (shiftBits bits offset).testBit (n + offset).toNat = true := by
  cases offset with
  | ofNat k =>
    have hpoint : (n + Int.ofNat k).toNat = k + n := by
      rw [Int.ofNat_eq_natCast]
      omega
    rw [shiftBits, Nat.testBit_shiftLeft, hpoint, Nat.add_sub_cancel_left, h]
    simp
  | negSucc k =>
    have hpoint : k + 1 + (n + Int.negSucc k).toNat = n := by omega
    rw [shiftBits, Nat.testBit_shiftRight, hpoint, h]

/-- No member of a set is in one with which it has no bit in common. -/
theorem testBit_of_disjoint {bits others : Nat} (h : bits &&& others = 0)
    (hn : bits.testBit n = true) : others.testBit n = false := by
  have hboth := Nat.testBit_and bits others n
  rwa [h, Nat.zero_testBit, hn, Bool.true_and, eq_comm] at hboth

/-- A set that is not changed by what it is cut down to is within that. -/
theorem testBit_of_within {bits others : Nat} (h : bits &&& others = bits)
    (hn : bits.testBit n = true) : others.testBit n = true := by
  have hboth := Nat.testBit_and bits others n
  rwa [h, hn, Bool.true_and, eq_comm] at hboth

end Bits

/-! ## Runs -/

/-- The code points of a run. -/
def CaseRun.bits (run : CaseRun) : Nat :=
  if run.stride = 1 then rangeBits (run.first, run.last)
  else unionBits (1 <<< ·)
    (List.range' run.first ((run.last - run.first) / run.stride + 1) run.stride)

/-- The code point that a run leads to. -/
def CaseRun.shift (run : CaseRun) (n : Nat) : Nat :=
  (n + run.offset).toNat

/-- A run that leads from no code point to a negative number or to a surrogate. -/
def CaseRun.Sound (run : CaseRun) : Prop :=
  0 ≤ run.first + run.offset ∧ (run.last + run.offset < 0xD800
    ∨ 0xDFFF < run.first + run.offset ∧ run.last + run.offset < 0x110000)

instance : DecidablePred CaseRun.Sound :=
  fun _ => inferInstanceAs (Decidable (_ ∧ _))

namespace CaseRun

variable {run : CaseRun} {n : Nat}

/-- A run goes from its first number to its last in steps of its stride. -/
theorem contains_iff : run.contains n = true
    ↔ run.first ≤ n ∧ n ≤ run.last ∧ (n - run.first) % run.stride = 0 := by
  rw [contains, Bool.and_eq_true, Bool.and_eq_true, decide_eq_true_eq, decide_eq_true_eq,
    beq_iff_eq, and_assoc]

/-- The numbers of a run are in its set. -/
theorem testBit_bits (h : run.contains n = true) : run.bits.testBit n = true := by
  obtain ⟨hfirst, hlast, hmod⟩ := contains_iff.mp h
  unfold bits
  split
  next => exact testBit_rangeBits.mpr ⟨hfirst, hlast⟩
  next =>
    have hsteps := Nat.div_add_mod (n - run.first) run.stride
    refine testBit_points.mpr (List.mem_range'.mpr ⟨(n - run.first) / run.stride, ?_, ?_⟩)
    · exact Nat.lt_succ_of_le (Nat.div_le_div_right (Nat.sub_le_sub_right hlast run.first))
    · omega

/-- A sound run only ever leads to characters. -/
theorem Sound.isValidChar_shift (h : run.Sound) (hn : run.contains n = true) :
    (run.shift n).isValidChar := by
  obtain ⟨hpos, hvalid⟩ := h
  obtain ⟨hfirst, hlast, -⟩ := contains_iff.mp hn
  unfold shift Nat.isValidChar
  omega

/-- A set moved by the offset of a sound run has what the run makes of its members. -/
theorem Sound.testBit_shift (h : run.Sound) (hn : run.contains n = true) {bits : Nat}
    (hbits : bits.testBit n = true) : (shiftBits bits run.offset).testBit (run.shift n) = true := by
  have hfirst := (contains_iff.mp hn).1
  have hpos := h.1
  exact testBit_shiftBits hbits (by omega)

end CaseRun

/-- The code points of some runs. -/
def sourceBits : List CaseRun → Nat :=
  unionBits CaseRun.bits

/-- The code points that some runs lead to. -/
def targetBits : List CaseRun → Nat :=
  unionBits fun run => shiftBits run.bits run.offset

section Runs

variable {runs : List CaseRun} {n : Nat}

/-- What runs do to a code point: nothing, or one of them leads it on. -/
theorem mapThrough_cases (runs : List CaseRun) (n : Nat) : mapThrough runs n = n
    ∨ ∃ run ∈ runs, run.contains n = true ∧ mapThrough runs n = run.shift n := by
  unfold mapThrough
  split
  next run hrun =>
    have hcontains := List.find?_some hrun
    exact .inr ⟨run, List.mem_of_find?_eq_some hrun, hcontains, rfl⟩
  next => exact .inl rfl

/-- A number that no run has stays as it is. -/
theorem mapThrough_of_testBit (h : (sourceBits runs).testBit n = false) : mapThrough runs n = n := by
  rcases mapThrough_cases runs n with hsame | ⟨run, hrun, hn, -⟩
  · exact hsame
  · rw [← Bool.not_eq_true] at h
    exact absurd (testBit_unionBits.mpr ⟨run, hrun, CaseRun.testBit_bits hn⟩) h

/-- Sound runs do nothing to a code point or lead it to a character among their targets. -/
theorem mapThrough_of_sound (h : ∀ run ∈ runs, run.Sound) (n : Nat) : mapThrough runs n = n
    ∨ (mapThrough runs n).isValidChar ∧ (targetBits runs).testBit (mapThrough runs n) = true := by
  rcases mapThrough_cases runs n with hsame | ⟨run, hrun, hn, hshift⟩
  · exact .inl hsame
  · rw [hshift]
    have htarget := (h run hrun).testBit_shift hn (CaseRun.testBit_bits hn)
    exact .inr ⟨(h run hrun).isValidChar_shift hn, testBit_unionBits.mpr ⟨run, hrun, htarget⟩⟩

/-- Where all later runs lie behind ASCII only the first one matters to an ASCII character. -/
theorem mapThrough_ascii (first : CaseRun) {later : List CaseRun}
    (hlater : ∀ run ∈ later, 0x80 ≤ run.first) (hn : n < 0x80) :
    mapThrough (first :: later) n = if first.contains n then first.shift n else n := by
  have hnone : mapThrough later n = n := by
    rcases mapThrough_cases later n with hsame | ⟨run, hrun, hcontains, -⟩
    · exact hsame
    · have hbehind := hlater run hrun
      have hfirst := (CaseRun.contains_iff.mp hcontains).1
      omega
  have hcons : mapThrough (first :: later) n
      = if first.contains n then first.shift n else mapThrough later n := by
    rw [mapThrough, List.find?_cons]
    cases first.contains n <;> rfl
  rw [hcons, hnone]

end Runs

/-- The character of a number has this number, if there is such a character. -/
theorem toNat_ofNat_of_valid {n : Nat} (h : n.isValidChar) : (Char.ofNat n).toNat = n := by
  rw [Char.ofNat, dif_pos h]
  rfl

/-! ## The tables, checked by evaluation -/

/-- The code points that a change to upper case leads to. -/
def raisedBits : Nat :=
  targetBits upperRuns ||| unionBits (fun entry => unionBits (1 <<< ·) entry.2) upperSequences

/-- The code points that a change to upper case leads from. -/
def unraisedBits : Nat :=
  sourceBits upperRuns ||| unionBits (1 <<< ·) (upperSequences.map Prod.fst)

/-- The code points of word characters: of letters, of numbers and of the underscore. -/
def wordBits : Nat :=
  unionBits rangeBits ((0x5F, 0x5F) :: letterNumberRanges)

/-- The letters whose upper case is not made of word characters only. For all but the last two it is
a letter and marks; the upper case of these is not in the table of letters. -/
def fraying : List Nat := [
  0x1F0, 0x390, 0x3B0, 0x1E96, 0x1E97, 0x1E98, 0x1E99, 0x1F50, 0x1F52, 0x1F54, 0x1F56, 0x1FB6,
  0x1FB7, 0x1FC6, 0x1FC7, 0x1FD2, 0x1FD3, 0x1FD6, 0x1FD7, 0x1FE2, 0x1FE3, 0x1FE4, 0x1FE6, 0x1FE7,
  0x1FF6, 0x1FF7, 0xA7D3, 0xA7D5]

/-- A run that leads the members of a set to word characters. -/
def CaseRun.KeepsWords (set : Nat) (run : CaseRun) : Prop :=
  shiftBits (run.bits &&& set) run.offset &&& wordBits = shiftBits (run.bits &&& set) run.offset

instance (set : Nat) : DecidablePred (CaseRun.KeepsWords set) :=
  fun _ => inferInstanceAs (Decidable (_ = _))

/-- The runs to upper case are sound, all but the first lie behind ASCII, and so do the sequences,
which are made of characters. No code point that is led to is led on. -/
theorem upperTables_checked :
    (∀ run ∈ upperRuns, run.Sound) ∧ (∀ run ∈ upperRuns.tail, 0x80 ≤ run.first)
      ∧ (∀ entry ∈ upperSequences, 0x80 ≤ entry.1 ∧ ∀ n ∈ entry.2, n.isValidChar)
      ∧ raisedBits &&& unraisedBits = 0 := by
  decide +kernel

/-- The same of the runs to lower case, with the one sequence beside them: an `i` and a mark. -/
theorem lowerTable_checked :
    (∀ run ∈ lowerRuns, run.Sound) ∧ (∀ run ∈ lowerRuns.tail, 0x80 ≤ run.first)
      ∧ targetBits lowerRuns &&& (sourceBits lowerRuns ||| unionBits (1 <<< ·) [0x130]) = 0
      ∧ lowerChar (Char.ofNat 0x307) = [Char.ofNat 0x307] := by
  decide +kernel

/-- In ASCII the word characters are those of the table. A change of case leads to word characters
from all of them but the fraying letters, each of which it leads to something else as well. -/
theorem words_checked :
    (∀ n < 0x80, isWordChar (Char.ofNat n) = wordBits.testBit n)
      ∧ (∀ run ∈ upperRuns, run.KeepsWords (wordBits ^^^ unionBits (1 <<< ·) fraying))
      ∧ (∀ entry ∈ upperSequences,
          (∀ n ∈ entry.2, wordBits.testBit n = true) ∨ entry.1 ∈ fraying)
      ∧ (∀ n ∈ fraying,
          ((upperChar (Char.ofNat n)).any fun d => !wordBits.testBit d.toNat) = true)
      ∧ ∀ run ∈ lowerRuns, run.KeepsWords wordBits := by
  decide +kernel

/-! ## Changing the case again -/

/-- Below 0x80 only the small letters have another upper case. -/
theorem mapThrough_upperRuns {n : Nat} (h : n < 0x80) :
    mapThrough upperRuns n = if 0x61 ≤ n ∧ n ≤ 0x7A then n - 32 else n := by
  have hlater := upperTables_checked.2.1
  have hshift : CaseRun.shift ⟨0x61, 0x7A, 1, -32⟩ n = n - 32 := by
    change ((n : Int) + -32).toNat = n - 32
    omega
  refine (mapThrough_ascii ⟨0x61, 0x7A, 1, -32⟩ hlater h).trans ?_
  simp only [CaseRun.contains_iff, hshift, Nat.mod_one, and_true]

/-- Below 0x80 only the capitals have another lower case. -/
theorem mapThrough_lowerRuns {n : Nat} (h : n < 0x80) :
    mapThrough lowerRuns n = if 0x41 ≤ n ∧ n ≤ 0x5A then n + 32 else n := by
  have hlater := lowerTable_checked.2.1
  have hshift : CaseRun.shift ⟨0x41, 0x5A, 1, 32⟩ n = n + 32 := rfl
  refine (mapThrough_ascii ⟨0x41, 0x5A, 1, 32⟩ hlater h).trans ?_
  simp only [CaseRun.contains_iff, hshift, Nat.mod_one, and_true]

/-- A character with a sequence of its own has its characters in upper case. -/
theorem upperChar_of_entry {c : Char} {entry : Nat × List Nat}
    (h : upperSequences.find? (·.1 == c.toNat) = some entry) :
    upperChar c = entry.2.map Char.ofNat := by
  obtain ⟨-, -, hentries, -⟩ := upperTables_checked
  have hsource := List.find?_some h
  have hpoint : entry.1 = c.toNat := beq_iff_eq.mp hsource
  have hlarge := (hentries entry (List.mem_of_find?_eq_some h)).1
  rw [upperChar, if_neg (by omega), h]

/-- Any other character, ASCII characters included, has one in upper case, by the runs. -/
theorem upperChar_of_none {c : Char} (h : upperSequences.find? (·.1 == c.toNat) = none) :
    upperChar c = [Char.ofNat (mapThrough upperRuns c.toNat)] := by
  by_cases hsmall : c.toNat < 0x80
  · have hletter : 'a' ≤ c ∧ c ≤ 'z' ↔ 0x61 ≤ c.toNat ∧ c.toNat ≤ 0x7A := Iff.rfl
    rw [upperChar, if_pos hsmall, mapThrough_upperRuns hsmall]
    simp only [hletter]
    split
    next => rfl
    next => rw [Char.ofNat_toNat]
  · rw [upperChar, if_neg hsmall, h]

/-- All characters but the capital I with a dot have one in lower case, by the runs. -/
theorem lowerChar_of_ne {c : Char} (h : c.toNat ≠ 0x130) :
    lowerChar c = [Char.ofNat (mapThrough lowerRuns c.toNat)] := by
  by_cases hsmall : c.toNat < 0x80
  · have hletter : 'A' ≤ c ∧ c ≤ 'Z' ↔ 0x41 ≤ c.toNat ∧ c.toNat ≤ 0x5A := Iff.rfl
    rw [lowerChar, if_pos hsmall, mapThrough_lowerRuns hsmall]
    simp only [hletter]
    split
    next => rfl
    next => rw [Char.ofNat_toNat]
  · rw [lowerChar, if_neg hsmall, if_neg h]

/-- The dotted capital becomes a small letter and a mark. -/
theorem lowerChar_dotted {c : Char} (h : c.toNat = 0x130) :
    lowerChar c = ['i', Char.ofNat 0x307] := by
  rw [lowerChar, if_neg (by rw [h]; decide), if_pos h]

/-- A character that a change to upper case leads to is one that none leads from. -/
theorem upperChar_of_raised {c : Char} (h : raisedBits.testBit c.toNat = true) :
    upperChar c = [c] := by
  obtain ⟨-, -, -, hdisjoint⟩ := upperTables_checked
  have hnot := testBit_of_disjoint hdisjoint h
  rw [unraisedBits, Nat.testBit_or, Bool.or_eq_false_iff, testBit_points_eq_false] at hnot
  have hnone : upperSequences.find? (·.1 == c.toNat) = none :=
    List.find?_eq_none.mpr fun entry hentry heq =>
      hnot.2 (beq_iff_eq.mp heq ▸ List.mem_map_of_mem hentry)
  rw [upperChar_of_none hnone, mapThrough_of_testBit hnot.1, Char.ofNat_toNat]

/-- **A character in upper case is its own upper case.** -/
theorem upperChar_of_mem {c d : Char} (h : d ∈ upperChar c) : upperChar d = [d] := by
  obtain ⟨hsound, -, hentries, -⟩ := upperTables_checked
  cases hentry : upperSequences.find? (·.1 == c.toNat) with
  | some entry =>
    rw [upperChar_of_entry hentry] at h
    obtain ⟨n, hn, rfl⟩ := List.mem_map.mp h
    have hmem := List.mem_of_find?_eq_some hentry
    refine upperChar_of_raised ?_
    rw [toNat_ofNat_of_valid ((hentries entry hmem).2 n hn), raisedBits, Nat.testBit_or,
      testBit_unionBits.mpr ⟨entry, hmem, testBit_points.mpr hn⟩, Bool.or_true]
  | none =>
    have hupper := upperChar_of_none hentry
    rw [hupper, List.mem_singleton] at h
    rcases mapThrough_of_sound hsound c.toNat with hsame | ⟨hvalid, htarget⟩
    · rw [hsame, Char.ofNat_toNat] at h hupper
      rw [h, hupper]
    · refine upperChar_of_raised ?_
      rw [h, toNat_ofNat_of_valid hvalid, raisedBits, Nat.testBit_or, htarget, Bool.true_or]

/-- **A character in lower case is its own lower case.** -/
theorem lowerChar_of_mem {c d : Char} (h : d ∈ lowerChar c) : lowerChar d = [d] := by
  obtain ⟨hsound, -, hdisjoint, hmarkKept⟩ := lowerTable_checked
  by_cases hdotted : c.toNat = 0x130
  · rw [lowerChar_dotted hdotted] at h
    rcases List.mem_cons.mp h with rfl | hmark
    · rfl
    · rw [List.mem_singleton.mp hmark]
      exact hmarkKept
  · have hlower := lowerChar_of_ne hdotted
    rw [hlower, List.mem_singleton] at h
    rcases mapThrough_of_sound hsound c.toNat with hsame | ⟨hvalid, htarget⟩
    · rw [hsame, Char.ofNat_toNat] at h hlower
      rw [h, hlower]
    · rw [← toNat_ofNat_of_valid hvalid, ← h] at htarget
      have hnot := testBit_of_disjoint hdisjoint htarget
      rw [Nat.testBit_or, Bool.or_eq_false_iff, testBit_points_eq_false, List.mem_singleton] at hnot
      rw [lowerChar_of_ne hnot.2, mapThrough_of_testBit hnot.1, Char.ofNat_toNat]

/-! ## Case and words -/

/-- The word characters are those in their set. -/
theorem isWordChar_eq (c : Char) : isWordChar c = wordBits.testBit c.toNat := by
  by_cases hsmall : c.toNat < 0x80
  · have hascii := words_checked.1
    rw [← hascii c.toNat hsmall, Char.ofNat_toNat]
  · have hunderscore : ¬ (0x5F ≤ c.toNat ∧ c.toNat ≤ 0x5F) := by omega
    rw [isWordChar, if_neg hsmall, Bool.eq_iff_iff, wordBits, testBit_unionBits]
    simp only [List.mem_cons, exists_eq_or_imp, testBit_rangeBits, hunderscore, false_or, inRanges,
      List.any_eq_true, Bool.and_eq_true, decide_eq_true_eq]

/-- Runs that lead the members of a set to word characters lead a word character of the set to
one. -/
theorem isWordChar_mapThrough {runs : List CaseRun} {set : Nat} {c : Char}
    (hsound : ∀ run ∈ runs, run.Sound) (hruns : ∀ run ∈ runs, run.KeepsWords set)
    (hc : isWordChar c = true) (hset : set.testBit c.toNat = true) :
    isWordChar (Char.ofNat (mapThrough runs c.toNat)) = true := by
  rcases mapThrough_cases runs c.toNat with hsame | ⟨run, hrun, hn, hshift⟩
  · rwa [hsame, Char.ofNat_toNat]
  · have hboth : (run.bits &&& set).testBit c.toNat = true := by
      rw [Nat.testBit_and, CaseRun.testBit_bits hn, hset]
      rfl
    rw [hshift, isWordChar_eq, toNat_ofNat_of_valid ((hsound run hrun).isValidChar_shift hn)]
    exact testBit_of_within (hruns run hrun) ((hsound run hrun).testBit_shift hn hboth)

/-- The upper case of a word character is made of word characters unless the character frays. -/
theorem isWordChar_of_mem_upperChar {c d : Char} (hc : isWordChar c = true)
    (hkeeps : c.toNat ∉ fraying) (h : d ∈ upperChar c) : isWordChar d = true := by
  obtain ⟨hsound, -, hentries, -⟩ := upperTables_checked
  obtain ⟨-, hruns, hwords, -, -⟩ := words_checked
  cases hentry : upperSequences.find? (·.1 == c.toNat) with
  | some entry =>
    rw [upperChar_of_entry hentry] at h
    obtain ⟨n, hn, rfl⟩ := List.mem_map.mp h
    have hmem := List.mem_of_find?_eq_some hentry
    have hsource := List.find?_some hentry
    rw [← beq_iff_eq.mp hsource] at hkeeps
    rw [isWordChar_eq, toNat_ofNat_of_valid ((hentries entry hmem).2 n hn)]
    exact (hwords entry hmem).resolve_right hkeeps n hn
  | none =>
    rw [upperChar_of_none hentry, List.mem_singleton] at h
    rw [h]
    refine isWordChar_mapThrough hsound hruns hc ?_
    rw [Nat.testBit_xor, ← isWordChar_eq, hc, testBit_points_eq_false.mpr hkeeps]
    rfl

/-- A letter that frays has a character in upper case that ends words. -/
theorem exists_of_mem_fraying {c : Char} (h : c.toNat ∈ fraying) :
    ∃ d ∈ upperChar c, isWordChar d = false := by
  obtain ⟨-, -, -, hfrays, -⟩ := words_checked
  obtain ⟨d, hd, hends⟩ := List.any_eq_true.mp (hfrays c.toNat h)
  rw [Char.ofNat_toNat] at hd
  rw [← isWordChar_eq, Bool.not_eq_true'] at hends
  exact ⟨d, hd, hends⟩

/-- The lower case of a word character is made of word characters, but for the capital I with a
dot. -/
theorem isWordChar_of_mem_lowerChar {c d : Char} (hc : isWordChar c = true) (hne : c.toNat ≠ 0x130)
    (h : d ∈ lowerChar c) : isWordChar d = true := by
  obtain ⟨-, -, -, -, hruns⟩ := words_checked
  rw [lowerChar_of_ne hne, List.mem_singleton] at h
  rw [h]
  exact isWordChar_mapThrough lowerTable_checked.1 hruns hc (isWordChar_eq c ▸ hc)

end ScenarioTables.Text
