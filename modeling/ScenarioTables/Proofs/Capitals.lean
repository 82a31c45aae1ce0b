import Mathlib.Data.List.TakeWhile
import ScenarioTables.Identifier
import ScenarioTables.Proofs.CaseTables

/-!
# How long names are in upper case

A class-style identifier changes the case of some characters and forgets those that are in no word.
What it keeps is the length in upper case: that of an identifier is that of the word characters of
the text it was made from (`capitalLength_classStyle`). Two texts with the same identifier have
therefore word characters of the same length, qualified names included (`wordLength_eq`).

A change of case brings in no sign such as a full stop (`IsSign.eq_of_mem_upperChar`), so an
identifier made of words holds no sign that ends words.

The facts about the tables of case mappings that this rests on are checked entry by entry.
-/

set_option autoImplicit false

namespace ScenarioTables.Text

/-- The number of characters that a text has in upper case. -/
def capitalLength : List Char → Nat
  | [] => 0
  | c :: rest => (upperChar c).length + capitalLength rest

/-- The number of characters that the word characters of a text have in upper case. -/
def wordLength (cs : List Char) : Nat :=
  capitalLength (cs.filter isWordChar)

theorem capitalLength_append (first second : List Char) :
    capitalLength (first ++ second) = capitalLength first + capitalLength second := by
  induction first with
  | nil => rw [List.nil_append, capitalLength, Nat.zero_add]
  | cons c rest ih => rw [List.cons_append, capitalLength, capitalLength, ih, Nat.add_assoc]

theorem wordLength_append (first second : List Char) :
    wordLength (first ++ second) = wordLength first + wordLength second := by
  rw [wordLength, List.filter_append, capitalLength_append]
  rfl

/-! ## The tables of case mappings -/

/-- Whether a code point lies between the least and the greatest one that a run leads to. -/
def CaseRun.spans (run : CaseRun) (n : Nat) : Bool :=
  Nat.ble (run.first + run.offset).toNat n && Nat.ble n (run.last + run.offset).toNat

/-- A code point that no run spans is led to from itself only. -/
theorem mapThrough_eq {runs : List CaseRun} {target n : Nat}
    (h : ∀ run ∈ runs, run.spans target = false) (hmap : mapThrough runs n = target) :
    n = target := by
  unfold mapThrough at hmap
  split at hmap
  next run hrun =>
    have hcontains := List.find?_some hrun
    simp only [CaseRun.contains, Bool.and_eq_true, decide_eq_true_eq] at hcontains
    simp only [Int.ofNat_eq_natCast] at hmap
    have hspans : run.spans target = true :=
      Bool.and_eq_true_iff.mpr ⟨Nat.ble_eq.mpr (by omega), Nat.ble_eq.mpr (by omega)⟩
    rw [h run (List.mem_of_find?_eq_some hrun)] at hspans
    cases hspans
  next => exact hmap

theorem length_upperChar_pos (c : Char) : 0 < (upperChar c).length := by
  have htable : ∀ entry ∈ upperSequences, entry.2 ≠ [] := by decide +kernel
  unfold upperChar
  split
  next => exact Nat.one_pos
  next =>
    split
    next entry hentry =>
      rw [List.length_map]
      exact List.length_pos_iff.mpr (htable entry (List.mem_of_find?_eq_some hentry))
    next => exact Nat.one_pos

/-- The character of a number has this number, or zero if there is no such character. -/
theorem toNat_ofNat (n : Nat) : (Char.ofNat n).toNat = n ∨ (Char.ofNat n).toNat = 0 := by
  by_cases hvalid : n.isValidChar
  · left
    rw [Char.ofNat, dif_pos hvalid]
    rfl
  · right
    rw [Char.ofNat, dif_neg hvalid]
    rfl

/-- A character in upper case has one upper case character. -/
theorem length_upperChar_of_mem {c d : Char} (h : d ∈ upperChar c) : (upperChar d).length = 1 := by
  rw [upperChar_of_mem h]
  rfl

/-- Whether a code point is an ASCII letter. -/
def isAsciiLetter (n : Nat) : Bool :=
  Nat.ble 0x41 n && Nat.ble n 0x5A || Nat.ble 0x61 n && Nat.ble n 0x7A

/-- An ASCII character, other than the null character, that is not a letter. -/
structure IsSign (c : Char) : Prop where
  pos : 0 < c.toNat
  small : c.toNat < 0x80
  noLetter : isAsciiLetter c.toNat = false

instance (c : Char) : Decidable (IsSign c) :=
  decidable_of_iff (0 < c.toNat ∧ c.toNat < 0x80 ∧ isAsciiLetter c.toNat = false)
    ⟨fun ⟨hpos, hsmall, hletter⟩ => ⟨hpos, hsmall, hletter⟩,
      fun ⟨hpos, hsmall, hletter⟩ => ⟨hpos, hsmall, hletter⟩⟩

/-- Whether a run leads to code points behind ASCII only, or else to letters of one case. -/
def CaseRun.sparesSigns (run : CaseRun) : Bool :=
  let least := (run.first + run.offset).toNat
  let greatest := (run.last + run.offset).toNat
  Nat.ble 0x80 least || Nat.ble 0x41 least && Nat.ble greatest 0x5A
    || Nat.ble 0x61 least && Nat.ble greatest 0x7A

/-- A run that spares signs has none of them. -/
theorem IsSign.spans_eq_false {run : CaseRun} {d : Char} (hd : IsSign d)
    (hrun : run.sparesSigns = true) : run.spans d.toNat = false := by
  have hsmall := hd.small
  have hletter := hd.noLetter
  simp only [isAsciiLetter, CaseRun.sparesSigns, CaseRun.spans, ← Bool.not_eq_true,
    Bool.or_eq_true, Bool.and_eq_true, Nat.ble_eq] at hletter hrun ⊢
  omega

/-- Runs that spare signs lead to a sign from itself only. -/
theorem IsSign.eq_mapThrough {runs : List CaseRun} {c d : Char} (hd : IsSign d)
    (hruns : ∀ run ∈ runs, run.sparesSigns = true)
    (h : d = Char.ofNat (mapThrough runs c.toNat)) : c = d := by
  have hmap : mapThrough runs c.toNat = d.toNat := by
    rcases toNat_ofNat (mapThrough runs c.toNat) with heq | hzero
    · rw [h, heq]
    · exact absurd (h ▸ hzero) (Nat.ne_of_gt hd.pos)
  have hspans : ∀ run ∈ runs, run.spans d.toNat = false :=
    fun run hrun => hd.spans_eq_false (hruns run hrun)
  exact Char.toNat_inj.mp (mapThrough_eq hspans hmap)

/-- A sign is no ASCII letter. -/
theorem IsSign.ne_ofNat {d : Char} (hd : IsSign d) {n : Nat} (hn : isAsciiLetter n = true) :
    d ≠ Char.ofNat n := by
  rintro rfl
  have hletter := hd.noLetter
  rcases toNat_ofNat n with heq | hzero
  · rw [heq, hn] at hletter
    cases hletter
  · exact Nat.ne_of_gt hd.pos hzero

/-- A sign is the upper case of itself only. -/
theorem IsSign.eq_of_mem_upperChar {c d : Char} (hd : IsSign d) (h : d ∈ upperChar c) : c = d := by
  have hsequences : ∀ entry ∈ upperSequences, ∀ n ∈ entry.2, ¬ IsSign (Char.ofNat n) := by
    decide +kernel
  have hruns : ∀ run ∈ upperRuns, run.sparesSigns = true := by decide +kernel
  unfold upperChar at h
  split at h
  next =>
    rw [List.mem_singleton] at h
    split at h
    next hlower =>
      have hrange : 'a'.toNat ≤ c.toNat ∧ c.toNat ≤ 'z'.toNat := hlower
      simp only [Char.reduceToNat] at hrange
      refine absurd h (hd.ne_ofNat ?_)
      simp only [isAsciiLetter, Bool.or_eq_true, Bool.and_eq_true, Nat.ble_eq]
      omega
    next => exact h.symm
  next =>
    split at h
    next entry hentry =>
      obtain ⟨n, hn, rfl⟩ := List.mem_map.mp h
      exact absurd hd (hsequences entry (List.mem_of_find?_eq_some hentry) n hn)
    next => exact hd.eq_mapThrough hruns (List.mem_singleton.mp h)

/-- A sign is the lower case of itself only. -/
theorem IsSign.eq_of_mem_lowerChar {c d : Char} (hd : IsSign d) (h : d ∈ lowerChar c) : c = d := by
  have hruns : ∀ run ∈ lowerRuns, run.sparesSigns = true := by decide +kernel
  unfold lowerChar at h
  split at h
  next =>
    rw [List.mem_singleton] at h
    split at h
    next hupper =>
      have hrange : 'A'.toNat ≤ c.toNat ∧ c.toNat ≤ 'Z'.toNat := hupper
      simp only [Char.reduceToNat] at hrange
      refine absurd h (hd.ne_ofNat ?_)
      simp only [isAsciiLetter, Bool.or_eq_true, Bool.and_eq_true, Nat.ble_eq]
      omega
    next => exact h.symm
  next =>
    split at h
    next =>
      rcases List.mem_cons.mp h with rfl | hdot
      · exact absurd hd (by decide)
      · rw [List.mem_singleton.mp hdot] at hd
        exact absurd hd (by decide)
    next => exact hd.eq_mapThrough hruns (List.mem_singleton.mp h)

/-! ## Identifiers -/

/-- A text in upper case stays as long. -/
theorem capitalLength_eq_length {cs : List Char} (h : ∀ c ∈ cs, (upperChar c).length = 1) :
    capitalLength cs = cs.length := by
  induction cs with
  | nil => rfl
  | cons c rest ih =>
    rw [capitalLength, h c List.mem_cons_self, ih fun d hd => h d (List.mem_cons_of_mem c hd),
      List.length_cons, Nat.add_comm]

/-- A capital at the front leaves the length in upper case. -/
theorem capitalLength_capitalize (word : List Char) :
    capitalLength (Identifier.capitalize word) = capitalLength word := by
  cases word with
  | nil => rfl
  | cons c rest =>
    rw [Identifier.capitalize, capitalLength_append,
      capitalLength_eq_length fun d hd => length_upperChar_of_mem hd, capitalLength]

/-- The words of a text hold its word characters in order. -/
theorem flatten_words (cs : List Char) : (words cs).flatten = cs.filter isWordChar := by
  rw [words, List.flatten_filter_not_isEmpty]
  induction cs with
  | nil => rfl
  | cons c cs ih =>
    rw [List.splitOnP_cons_eq_if_modifyHead, List.filter_cons]
    cases isWordChar c with
    | false => exact ih
    | true =>
      obtain ⟨word, rest, hpieces⟩ :=
        List.exists_cons_of_ne_nil (List.splitOnP_ne_nil (fun c => !isWordChar c) cs)
      rw [hpieces] at ih ⊢
      exact congrArg (List.cons c) ih

/-- So do capitals at the front of several words. -/
theorem capitalLength_flatMap_capitalize (words : List (List Char)) :
    capitalLength (words.flatMap Identifier.capitalize) = capitalLength words.flatten := by
  induction words with
  | nil => rfl
  | cons word words ih =>
    rw [List.flatMap_cons, capitalLength_append, capitalLength_capitalize, ih, List.flatten_cons,
      capitalLength_append]

/-- An identifier is as long in upper case as the word characters of its text. -/
theorem capitalLength_classStyle {cs : List Char} (h : Identifier.isQualified cs = false) :
    capitalLength (Identifier.classStyle cs) = wordLength cs := by
  rw [Identifier.classStyle, h, wordLength, ← flatten_words]
  exact capitalLength_flatMap_capitalize _

/-- A character that ends words is in none. -/
theorem not_mem_of_mem_words {cs word : List Char} {d : Char} (hd : isWordChar d = false)
    (hword : word ∈ words cs) : d ∉ word := by
  intro hmem
  have hflat : d ∈ (words cs).flatten := List.mem_flatten.mpr ⟨word, hword, hmem⟩
  rw [flatten_words] at hflat
  have hinside := (List.mem_filter.mp hflat).2
  rw [hd] at hinside
  cases hinside

/-- A capital at the front brings in no sign. -/
theorem IsSign.mem_of_mem_capitalize {d : Char} (hd : IsSign d) {word : List Char}
    (h : d ∈ Identifier.capitalize word) : d ∈ word := by
  cases word with
  | nil => cases h
  | cons c rest =>
    rcases List.mem_append.mp h with hupper | hrest
    · exact List.mem_cons.mpr (.inl (hd.eq_of_mem_upperChar hupper).symm)
    · exact List.mem_cons_of_mem c hrest

/-- A small letter at the front brings in no sign. -/
theorem IsSign.mem_of_mem_uncapitalize {d : Char} (hd : IsSign d) {word : List Char}
    (h : d ∈ Identifier.uncapitalize word) : d ∈ word := by
  cases word with
  | nil => cases h
  | cons c rest =>
    rcases List.mem_append.mp h with hlower | hrest
    · exact List.mem_cons.mpr (.inl (hd.eq_of_mem_lowerChar hlower).symm)
    · exact List.mem_cons_of_mem c hrest

/-- No capital brings in a sign that ends words. -/
theorem IsSign.not_mem_classStyle {d : Char} (hd : IsSign d) (hends : isWordChar d = false)
    {cs : List Char} (h : Identifier.isQualified cs = false) : d ∉ Identifier.classStyle cs := by
  rw [Identifier.classStyle, h]
  intro hmem
  obtain ⟨word, hword, hmem⟩ := List.mem_flatMap.mp hmem
  exact not_mem_of_mem_words hends hword (hd.mem_of_mem_capitalize hmem)

/-- Neither a capital nor a small letter brings in a sign that ends words. -/
theorem IsSign.not_mem_methodStyle {d : Char} (hd : IsSign d) (hends : isWordChar d = false)
    (cs : List Char) : d ∉ Identifier.methodStyle cs := by
  have hnone : ∀ word ∈ words cs, d ∉ word := fun word hword => not_mem_of_mem_words hends hword
  intro hmem
  unfold Identifier.methodStyle at hmem
  split at hmem
  next => cases hmem
  next first rest hwords =>
    rw [hwords] at hnone
    rcases List.mem_append.mp hmem with hfirst | hrest
    · exact hnone first List.mem_cons_self (hd.mem_of_mem_uncapitalize hfirst)
    · obtain ⟨word, hlater, hmem⟩ := List.mem_flatMap.mp hrest
      exact hnone word (List.mem_cons_of_mem first hlater) (hd.mem_of_mem_capitalize hmem)

/-- A qualified name has a dot or a dollar sign. -/
theorem isQualified_of_not_mem {cs : List Char} (hdot : '.' ∉ cs) (hdollar : '$' ∉ cs) :
    Identifier.isQualified cs = false := by
  have hnone : cs.dropWhile (· != '.') = [] :=
    List.dropWhile_eq_nil_iff.mpr fun c hc => bne_iff_ne.mpr fun heq => hdot (heq ▸ hc)
  rw [Identifier.isQualified, Identifier.hasInnerDot, hnone]
  simpa using hdollar

/-- An identifier made of words is not qualified. -/
theorem isQualified_classStyle {cs : List Char} (h : Identifier.isQualified cs = false) :
    Identifier.isQualified (Identifier.classStyle cs) = false :=
  isQualified_of_not_mem (IsSign.not_mem_classStyle (by decide) (by decide) h)
    (IsSign.not_mem_classStyle (by decide) (by decide) h)

/-- Texts with one identifier have word characters of one length. -/
theorem wordLength_eq {first second : List Char}
    (h : Identifier.classStyle first = Identifier.classStyle second) :
    wordLength first = wordLength second := by
  have hqualified {cs : List Char} (hcs : Identifier.isQualified cs = true) :
      Identifier.classStyle cs = cs := if_pos hcs
  cases hfirst : Identifier.isQualified first with
  | true =>
    cases hsecond : Identifier.isQualified second with
    | true =>
      rw [hqualified hfirst, hqualified hsecond] at h
      rw [h]
    | false =>
      have := isQualified_classStyle hsecond
      rw [← h, hqualified hfirst, hfirst] at this
      cases this
  | false =>
    cases hsecond : Identifier.isQualified second with
    | true =>
      have := isQualified_classStyle hfirst
      rw [h, hqualified hsecond, hsecond] at this
      cases this
    | false => rw [← capitalLength_classStyle hfirst, ← capitalLength_classStyle hsecond, h]

end ScenarioTables.Text
