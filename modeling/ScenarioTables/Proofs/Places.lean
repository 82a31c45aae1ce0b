import Mathlib.Data.List.Chain
import ScenarioTables.NameTemplate.Basic

/-!
# The places of a name

An underscore of a name cell is a placeholder or a letter of the name, and which of the two is laid
down by the cell alone: `StandsAloneAt` looks at the character in front of the underscore and at the
one behind it, at an index of the cell. Reading the cell finds exactly these underscores and loses
nothing (`Cuts`, `parse_cuts`). The index of a place is that of its underscore in the text that the
pieces were read from (`placeIndices`).

The name without placeholders is the cell in which each such underscore and the character in front
of it have given way to one space, all at once (`blanked`, `unparameterized_parse`). The function
that writes the name takes back the last character that it has written. That this one is always the
neighbour of the underscore, and never the space left by an earlier place, holds because two
underscores next to each other do not stand alone.
-/

set_option autoImplicit false

namespace ScenarioTables

/-- The text of a piece; a place is an underscore again. -/
def Token.written : Token → List Char
  | .literal text => text.toList
  | .placeholder => ['_']

namespace NameTemplate

open Text

/-- A character stands alone between one in front of it and one behind, if any, neither of them a
word character. -/
theorem standsAlone_iff {previous next : Option Char} : standsAlone previous next = true
    ↔ (∃ c, previous = some c ∧ isAsciiWord c = false) ∧ ∀ c ∈ next, isAsciiWord c = false := by
  cases previous <;> cases next <;> simp [standsAlone]

/-- **An underscore that stands alone**, at an index of a text: a character stands in front of it,
and neither that one nor the next, if there is a next, is an ASCII word character. -/
def StandsAloneAt (cs : List Char) (index : Nat) : Prop :=
  cs[index]? = some '_'
    ∧ (0 < index ∧ ∃ c ∈ cs[index - 1]?, isAsciiWord c = false)
    ∧ ∀ c ∈ cs[index + 1]?, isAsciiWord c = false

-- Written out, so that only the two neighbours are looked at: a statement about some character also
-- has an instance that tries every one.
instance (cs : List Char) (index : Nat) : Decidable (StandsAloneAt cs index) :=
  decidable_of_iff
    (cs[index]? = some '_' ∧ (0 < index ∧ (cs[index - 1]?).any (!isAsciiWord ·) = true)
      ∧ (cs[index + 1]?).all (!isAsciiWord ·) = true)
    (by simp [StandsAloneAt, Option.any_eq_true, Option.all_eq_true])

/-- A place is one of a character of the text. -/
theorem StandsAloneAt.lt_length {cs : List Char} {index : Nat} (h : StandsAloneAt cs index) :
    index < cs.length :=
  (List.getElem?_eq_some_iff.mp h.1).1

/-- What stands alone behind a text depends on the last character of that text only. -/
theorem standsAloneAt_length_iff {front rest : List Char} : StandsAloneAt (front ++ rest) front.length
    ↔ rest.head? = some '_' ∧ standsAlone front.getLast? rest.tail.head? = true := by
  have hbefore : (0 < front.length ∧ ∃ c ∈ (front ++ rest)[front.length - 1]?, isAsciiWord c = false)
      ↔ ∃ c, front.getLast? = some c ∧ isAsciiWord c = false := by
    cases hfront : front.getLast? with
    | none => simp [List.getLast?_eq_none_iff.mp hfront]
    | some last =>
      obtain ⟨before, rfl⟩ := List.getLast?_eq_some_iff.mp hfront
      simp
  have hhere : (front ++ rest)[front.length]? = rest.head? := by
    rw [List.getElem?_append_right (Nat.le_refl _), Nat.sub_self, List.head?_eq_getElem?]
  have hbehind : (front ++ rest)[front.length + 1]? = rest.tail.head? := by
    rw [List.getElem?_append_right (Nat.le_add_right _ 1), Nat.add_sub_cancel_left]
    cases rest with
    | nil => rfl
    | cons c rest => exact List.head?_eq_getElem?.symm
  rw [StandsAloneAt, hbefore, hhere, hbehind, standsAlone_iff]

/-- An underscore stands alone directly behind a character that is not a word character. -/
theorem standsAloneAt_iff {cs : List Char} {index : Nat} : StandsAloneAt cs index
    ↔ ∃ before c behind, cs = before ++ c :: '_' :: behind ∧ index = before.length + 1
      ∧ isAsciiWord c = false ∧ ∀ next ∈ behind.head?, isAsciiWord next = false := by
  constructor
  · intro h
    have hlength : (cs.take index).length = index := List.length_take_of_le (Nat.le_of_lt h.lt_length)
    have hcut : cs.take index ++ cs.drop index = cs := List.take_append_drop index cs
    generalize cs.take index = front at hlength hcut
    generalize cs.drop index = rest at hcut
    subst hlength hcut
    obtain ⟨hhead, halone⟩ := standsAloneAt_length_iff.mp h
    obtain ⟨⟨c, hlast, hc⟩, hnext⟩ := standsAlone_iff.mp halone
    obtain ⟨before, rfl⟩ := List.getLast?_eq_some_iff.mp hlast
    obtain ⟨behind, rfl⟩ := List.head?_eq_some_iff.mp hhead
    exact ⟨before, c, behind, by simp, by simp, hc, hnext⟩
  · rintro ⟨before, c, behind, rfl, rfl, hc, hnext⟩
    have hlength : before.length + 1 = (before ++ [c]).length := by simp
    rw [List.append_cons, hlength, standsAloneAt_length_iff, standsAlone_iff]
    exact ⟨rfl, ⟨c, List.getLast?_concat, hc⟩, hnext⟩

/-! ## Reading a name cell -/

/-- The text that some pieces were read from. -/
def written (tokens : List Token) : List Char :=
  tokens.flatMap Token.written

/-- The indices of the places in the text of some pieces, which begins at the index `start`. -/
def placeIndices (start : Nat) : List Token → List Nat
  | [] => []
  | .literal text :: rest => placeIndices (start + text.toList.length) rest
  | .placeholder :: rest => start :: placeIndices (start + 1) rest

/-- **How a text is cut into pieces.** The pieces give the text back, their places are the
underscores that stand alone in it, no literal is empty, literals and places take turns, and no place
comes first. -/
structure Cuts (cs : List Char) (tokens : List Token) : Prop where
  written_eq : written tokens = cs
  mem_placeIndices_iff : ∀ index, index ∈ placeIndices 0 tokens ↔ StandsAloneAt cs index
  nonempty : .literal "" ∉ tokens
  inTurn : tokens.IsChain fun first second => first = .placeholder ↔ second ≠ .placeholder
  first : tokens.head? ≠ some .placeholder

section Scanning

variable {previous : Option Char} {pending cs : List Char} {tokens : List Token}

/-- Reading goes on behind a place, or the next character waits with those read before. -/
theorem scan_cons (front pending : List Char) (c : Char) (rest : List Char) :
    scan front.getLast? pending (c :: rest)
      = if StandsAloneAt (front ++ c :: rest) front.length
        then pendingLiteral pending ++ .placeholder :: scan (some c) [] rest
        else scan (some c) (c :: pending) rest := by
  simp only [scan, standsAloneAt_length_iff, List.head?_cons, List.tail_cons, Option.some.injEq]

/-- The literal of the pending characters is written as these characters. -/
theorem written_pendingLiteral (pending : List Char) (tokens : List Token) :
    written (pendingLiteral pending ++ tokens) = pending.reverse ++ written tokens := by
  cases pending <;> simp [pendingLiteral, written, Token.written]

/-- The tokens of a text, written one behind another, are the text. -/
theorem written_scan (previous : Option Char) (pending cs : List Char) :
    written (scan previous pending cs) = pending.reverse ++ cs := by
  induction cs generalizing previous pending with
  | nil => simpa [scan, written] using written_pendingLiteral pending []
  | cons c cs ih =>
    rw [scan]
    split
    next hplace =>
      obtain ⟨rfl, -⟩ := hplace
      rw [written_pendingLiteral, written, List.flatMap_cons, ← written, ih]
      rfl
    next => simp [ih]

/-- A literal in front moves the places behind it by its length. -/
theorem placeIndices_pendingLiteral (start : Nat) (pending : List Char) (tokens : List Token) :
    placeIndices start (pendingLiteral pending ++ tokens)
      = placeIndices (start + pending.length) tokens := by
  cases pending <;> simp [pendingLiteral, placeIndices]

/-- Reading the rest of a text finds the underscores that stand alone in it. -/
theorem mem_placeIndices_scan {front pending rest : List Char} {start index : Nat}
    (hstart : start + pending.length = front.length) :
    index ∈ placeIndices start (scan front.getLast? pending rest)
      ↔ front.length ≤ index ∧ StandsAloneAt (front ++ rest) index := by
  induction rest generalizing front pending start with
  | nil =>
    have hnone := placeIndices_pendingLiteral start pending []
    rw [List.append_nil] at hnone
    rw [scan, hnone]
    simp only [placeIndices, List.not_mem_nil, List.append_nil, false_iff, not_and]
    intro hindex hplace
    exact absurd hplace.lt_length (Nat.not_lt.mpr hindex)
  | cons c rest ih =>
    have hfront : front ++ c :: rest = (front ++ [c]) ++ rest := by simp
    have hlast : some c = (front ++ [c]).getLast? := by simp
    have hlength : (front ++ [c]).length = front.length + 1 := by simp
    rw [scan_cons]
    split
    next hplace =>
      have hrest := @ih (front ++ [c]) [] (front.length + 1) (by simp)
      rw [placeIndices_pendingLiteral, hstart, placeIndices, List.mem_cons, hlast, hrest, hlength,
        ← hfront]
      by_cases hindex : index = front.length
      · simp [hindex, hplace]
      · simp only [hindex, false_or]
        exact and_congr_left fun _ => by omega
    next hletter =>
      have hrest := @ih (front ++ [c]) (c :: pending) start (by simp; omega)
      rw [hlast, hrest, hlength, ← hfront]
      by_cases hindex : index = front.length
      · simp [hindex, hletter]
      · exact and_congr_left fun _ => by omega

/-- Placeholders stand at the underscores that stand alone. -/
theorem mem_placeIndices_parse (raw : String) (index : Nat) :
    index ∈ placeIndices 0 (parse raw).tokens ↔ StandsAloneAt raw.toList index := by
  have hscan := @mem_placeIndices_scan [] [] raw.toList 0 index rfl
  rwa [List.length_nil, and_iff_right (Nat.zero_le index)] at hscan

/-- There is a placeholder exactly if there is a place. -/
theorem placeholder_mem_iff {start : Nat} :
    Token.placeholder ∈ tokens ↔ ∃ index, index ∈ placeIndices start tokens := by
  induction tokens generalizing start with
  | nil => simp [placeIndices]
  | cons token tokens ih =>
    cases token with
    | literal text => rw [placeIndices, ← ih]; simp
    | placeholder => exact iff_of_true List.mem_cons_self ⟨start, List.mem_cons_self⟩

/-- No literal is empty. -/
theorem literal_empty_not_mem_scan (previous : Option Char) (pending cs : List Char) :
    Token.literal "" ∉ scan previous pending cs := by
  have hpending (pending : List Char) : Token.literal "" ∉ pendingLiteral pending := by
    cases pending with
    | nil => simp [pendingLiteral]
    | cons c pending => simp [pendingLiteral, ← String.toList_inj]
  induction cs generalizing previous pending with
  | nil => exact hpending pending
  | cons c cs ih =>
    rw [scan]
    split
    next => simp [hpending, ih]
    next => exact ih _ _

/-- **No place without a character of its own in front**: where nothing waits, the character read
last, if there is one, is a word character. -/
def Waits (previous : Option Char) (pending : List Char) : Prop :=
  pending = [] → ∀ c ∈ previous, isAsciiWord c = true

/-- Behind a place nothing is pending, and the underscore read last is a word character. -/
theorem waits_place {c : Char} (h : c = '_') : Waits (some c) [] := by
  rintro - d ⟨⟩
  rw [h]
  decide

theorem waits_letter (c : Char) (pending : List Char) : Waits (some c) (c :: pending) :=
  fun hnil => nomatch hnil

/-- In front of a place something waits. -/
theorem Waits.ne_nil {next : Option Char} (h : Waits previous pending)
    (hplace : standsAlone previous next = true) : pending ≠ [] := by
  obtain ⟨⟨c, hprevious, hc⟩, -⟩ := standsAlone_iff.mp hplace
  intro hpending
  have := h hpending c hprevious
  rw [hc] at this
  cases this

/-- In a waiting state no placeholder comes first. -/
theorem head?_scan_ne (h : Waits previous pending) :
    (scan previous pending cs).head? ≠ some .placeholder := by
  induction cs generalizing previous pending with
  | nil => cases pending <;> simp [scan, pendingLiteral]
  | cons c cs ih =>
    rw [scan]
    split
    next hplace =>
      obtain ⟨d, pending, rfl⟩ := List.exists_cons_of_ne_nil (h.ne_nil hplace.2)
      simp [pendingLiteral]
    next => exact ih (waits_letter c pending)

/-- Literals and places take turns. -/
theorem isChain_scan (h : Waits previous pending) :
    (scan previous pending cs).IsChain
      fun first second => first = .placeholder ↔ second ≠ .placeholder := by
  induction cs generalizing previous pending with
  | nil => cases pending <;> simp [scan, pendingLiteral]
  | cons c cs ih =>
    rw [scan]
    split
    next hplace =>
      obtain ⟨d, pending, rfl⟩ := List.exists_cons_of_ne_nil (h.ne_nil hplace.2)
      have hrest := ih (waits_place hplace.1)
      have hfirst := @head?_scan_ne _ _ cs (waits_place hplace.1)
      simp only [pendingLiteral, List.singleton_append, List.isChain_cons_cons]
      refine ⟨by simp, ?_⟩
      cases hscan : scan (some c) [] cs with
      | nil => exact List.isChain_singleton _
      | cons token tokens =>
        rw [hscan] at hrest hfirst
        exact List.isChain_cons_cons.mpr ⟨by simpa using hfirst, hrest⟩
    next => exact ih (waits_letter c pending)

end Scanning

/-- **Reading a name cell loses nothing and finds its places.** -/
theorem parse_cuts (raw : String) : Cuts raw.toList (parse raw).tokens where
  written_eq := written_scan none [] raw.toList
  mem_placeIndices_iff := mem_placeIndices_parse raw
  nonempty := literal_empty_not_mem_scan none [] raw.toList
  inTurn := isChain_scan fun _ _ hc => nomatch hc
  first := head?_scan_ne fun _ _ hc => nomatch hc

/-! ## The name without places -/

/-- What the character at an index of a name cell gives way to. -/
def blankedAt (cs : List Char) (index : Nat) : List Char :=
  if StandsAloneAt cs index then [' ']
  else if StandsAloneAt cs (index + 1) then []
  else cs[index]?.toList

/-- **A name cell without its places**: each underscore that stands alone, together with the one
character in front of it, gives way to a single space. -/
def blanked (cs : List Char) : List Char :=
  (List.range cs.length).flatMap (blankedAt cs)

/-- The literal of the pending characters is written in front of the other tokens. -/
theorem writeBlanks_pendingLiteral (text pending : List Char) (tokens : List Token) :
    writeBlanks text (pendingLiteral pending ++ tokens) = writeBlanks (pending ++ text) tokens := by
  cases pending <;> simp [pendingLiteral, writeBlanks]

/-- Writing the pieces of the rest of a text writes what its characters give way to. What waits is
written in front, up to the character that a place at the beginning of the rest takes with it. -/
theorem writeBlanks_scan {front pending rest : List Char} (text : List Char)
    (h : Waits front.getLast? pending) :
    writeBlanks text (scan front.getLast? pending rest)
      = ((List.range' front.length rest.length).flatMap (blankedAt (front ++ rest))).reverse
        ++ ((if StandsAloneAt (front ++ rest) front.length then pending.tail else pending)
          ++ text) := by
  induction rest generalizing front pending text with
  | nil =>
    have hnone := writeBlanks_pendingLiteral text pending []
    rw [List.append_nil] at hnone
    have hend : ¬ StandsAloneAt (front ++ []) front.length := fun hplace =>
      absurd hplace.lt_length (by simp)
    rw [scan, hnone, if_neg hend]
    rfl
  | cons c rest ih =>
    have hfront : front ++ c :: rest = (front ++ [c]) ++ rest := by simp
    have hlast : some c = (front ++ [c]).getLast? := by simp
    have hlength : (front ++ [c]).length = front.length + 1 := by simp
    have hhere : (front ++ c :: rest)[front.length]? = some c := by simp
    rw [scan_cons, List.length_cons, List.range'_succ, List.flatMap_cons, List.reverse_append]
    split
    next hplace =>
      have hc : c = '_' := Option.some.inj (hhere.symm.trans hplace.1)
      have hrest := @ih (front ++ [c]) [] (' ' :: (pending ++ text).tail) (hlast ▸ waits_place hc)
      have hpending := h.ne_nil (standsAloneAt_length_iff.mp hplace).2
      rw [hlast, writeBlanks_pendingLiteral, writeBlanks, hrest, hlength, ← hfront,
        blankedAt, if_pos hplace]
      simp [List.tail_append_of_ne_nil hpending]
    next hletter =>
      have hrest := @ih (front ++ [c]) (c :: pending) text (hlast ▸ waits_letter c pending)
      rw [hlast, hrest, hlength, ← hfront, blankedAt, if_neg hletter, hhere]
      split <;> simp

/-- **The name without placeholders is the rewritten cell, trimmed.** -/
theorem unparameterized_parse (raw : String) :
    (parse raw).unparameterized = String.ofList (trim (blanked raw.toList)) := by
  have hstart : ¬ StandsAloneAt ([] ++ raw.toList) 0 := fun h => absurd h.2.1.1 (Nat.lt_irrefl 0)
  have hscan := @writeBlanks_scan [] [] raw.toList [] fun _ _ hc => nomatch hc
  rw [List.length_nil, if_neg hstart, List.append_nil, List.append_nil, ← List.range_eq_range'] at hscan
  rw [unparameterized, parse, show scan none [] raw.toList = scan [].getLast? [] raw.toList from rfl,
    hscan, List.reverse_reverse]
  rfl

-- Places may stand with a single character between them, which goes with the later one.
example : blanked [' ', '_', '-', '_'] = [' ', ' '] := rfl

end NameTemplate

end ScenarioTables
