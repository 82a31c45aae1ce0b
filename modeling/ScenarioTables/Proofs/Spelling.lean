import Mathlib.Data.List.DropRight
import ScenarioTables.Proofs.Columns
import ScenarioTables.Proofs.Layouts

/-!
# Phrases that a header spells

With values in the places of its arguments a header spells a phrase, which shows how its scenario is
invoked: the name cell with the values in it, or all cells in turn with the values in place of the
arguments. A row that holds the phrase is trimmed before it is held against the template, and the
template is made of the cells as they stand. So a scenario whose name stands in one cell is invoked
by its own header just if that cell has no blanks at its ends, and one with fragments in turn is if
an argument stands behind every fragment (`Scenario.captures?_spelled`). In the second layout the
template has a place behind the last fragment in any case, so where the header ends with a fragment
the two differ (`Scenario.not_captured_for_all_headers`).
-/

set_option autoImplicit false

namespace ScenarioTables

/-! ## Texts without blanks at their ends -/

namespace Text

/-- A text whose first and last characters are not blank. -/
def Bounded (cs : List Char) : Prop :=
  (∀ c ∈ cs.head?, isBlank c = false) ∧ ∀ c ∈ cs.getLast?, isBlank c = false

/-- Nothing is trimmed from an end that is not blank. -/
theorem trimEnd_eq_self_iff {cs : List Char} :
    trimEnd cs = cs ↔ ∀ c ∈ cs.getLast?, isBlank c = false := by
  rw [← List.head?_reverse, ← trimStart_eq_self_iff, trimEnd, trimStart, List.reverse_eq_iff]

theorem trimStart_trimStart (cs : List Char) : trimStart (trimStart cs) = trimStart cs :=
  List.dropWhile_idempotent isBlank cs

/-- What trimming leaves has no blanks at its ends. -/
theorem bounded_trim (cs : List Char) : Bounded (trim cs) := by
  constructor
  · intro c hc
    obtain ⟨blanks, hblanks, -⟩ := exists_trimEnd (trimStart cs)
    refine trimStart_eq_self_iff.mp (trimStart_trimStart cs) c ?_
    rw [hblanks, List.head?_append, show (trimEnd (trimStart cs)).head? = some c from hc]
    rfl
  · refine trimEnd_eq_self_iff.mp ?_
    exact List.rdropWhile_idempotent isBlank (trimStart cs)

/-- Trimming keeps exactly the texts without blanks at their ends. -/
theorem trim_eq_self_iff {cs : List Char} : trim cs = cs ↔ Bounded cs := by
  constructor
  · exact fun htrim => htrim ▸ bounded_trim cs
  · rintro ⟨hstart, hend⟩
    rw [trim, trimStart_eq_self_iff.mpr hstart, trimEnd_eq_self_iff.mpr hend]

end Text

/-- **A value in a phrase**: a text on one line, not empty and without blanks at its ends. -/
structure IsValue (value : String) : Prop where
  nonempty : value ≠ ""
  oneLine : '\n' ∉ value.toList
  bounded : Text.trimmed value = value

namespace IsValue

variable {value : String} (h : IsValue value)

include h

theorem toList_ne_nil : value.toList ≠ [] :=
  mt String.toList_eq_nil_iff.mp h.nonempty

/-- A spelled value has no blanks at its ends. -/
theorem toList_bounded : Text.Bounded value.toList := by
  refine Text.trim_eq_self_iff.mp ?_
  rw [← @String.toList_ofList (Text.trim value.toList)]
  exact congrArg String.toList h.bounded

/-- What ends with a value does not end with a blank. -/
theorem last_of_suffix {cs : List Char} (hsuffix : value.toList <:+ cs) :
    ∀ c ∈ cs.getLast?, Text.isBlank c = false := by
  intro c hc
  obtain ⟨front, rfl⟩ := hsuffix
  rw [List.getLast?_append_of_ne_nil front h.toList_ne_nil] at hc
  exact h.toList_bounded.2 c hc

end IsValue

/-! ## The name cell with values in it -/

namespace NameTemplate

open Text

/-- Puts values in place of the underscores that stand alone in the text behind the character
`previous`. Underscores without a value stay. -/
def filledAfter (previous : Option Char) : List Char → List String → List Char
  | [], _ => []
  | c :: rest, values =>
    if c = '_' ∧ standsAlone previous rest.head? then
      match values with
      | [] => c :: filledAfter (some c) rest []
      | value :: later => value.toList ++ filledAfter (some c) rest later
    else
      c :: filledAfter (some c) rest values

/-- A name cell with values in place of its placeholders. -/
def filledCell (nameCell : String) (values : List String) : String :=
  String.ofList (filledAfter none nameCell.toList values)

section Filled

variable {previous : Option Char} {c : Char} {rest : List Char}

/-- An underscore that stands alone takes the next value. -/
theorem filledAfter_place (h : c = '_' ∧ standsAlone previous rest.head?) (value : String)
    (later : List String) : filledAfter previous (c :: rest) (value :: later)
      = value.toList ++ filledAfter (some c) rest later := by
  rw [filledAfter.eq_def]
  exact if_pos h

theorem filledAfter_char (h : ¬ (c = '_' ∧ standsAlone previous rest.head?)) (values : List String) :
    filledAfter previous (c :: rest) values = c :: filledAfter (some c) rest values := by
  rw [filledAfter.eq_def]
  exact if_neg h

/-- A character stays, or it is an underscore and the next value takes its place. -/
theorem filledAfter_cons (previous : Option Char) (c : Char) (rest : List Char)
    (values : List String) :
    filledAfter previous (c :: rest) values = c :: filledAfter (some c) rest values
      ∨ c = '_' ∧ ∃ value later, values = value :: later
        ∧ filledAfter previous (c :: rest) values
          = value.toList ++ filledAfter (some c) rest later := by
  by_cases hplace : c = '_' ∧ standsAlone previous rest.head?
  · cases values with
    | nil =>
      left
      rw [filledAfter.eq_def]
      exact if_pos hplace
    | cons value later => exact Or.inr ⟨hplace.1, value, later, rfl, filledAfter_place hplace ..⟩
  · exact Or.inl (filledAfter_char hplace values)

end Filled

/-- The literal of the pending characters is put in front. -/
theorem fillTokens_pendingLiteral (pending : List Char) (tokens : List Token)
    (values : List String) : fillTokens (pendingLiteral pending ++ tokens) values
      = (fillTokens tokens values).map (String.ofList pending.reverse ++ ·) := by
  cases pending with
  | nil =>
    have hempty : ((String.ofList [].reverse : String) ++ ·) = id :=
      funext fun phrase => String.empty_append
    rw [hempty, Option.map_id]
    rfl
  | cons c pending => rfl

/-- Pending characters are no placeholder. -/
theorem count_pendingLiteral (pending : List Char) (tokens : List Token) :
    (pendingLiteral pending ++ tokens).count .placeholder = tokens.count .placeholder := by
  cases pending with
  | nil => rfl
  | cons c pending => exact List.count_cons_of_ne (by simp)

/-- Filling the tokens of a text is filling the text. -/
theorem fillTokens_scan {previous : Option Char} {pending cs : List Char} {values : List String}
    (h : values.length = (scan previous pending cs).count .placeholder) :
    fillTokens (scan previous pending cs) values
      = some (String.ofList (pending.reverse ++ filledAfter previous cs values)) := by
  induction cs generalizing previous pending values with
  | nil =>
    have hcount := count_pendingLiteral pending []
    rw [List.append_nil] at hcount
    rw [scan, hcount, List.count_nil, List.length_eq_zero_iff] at h
    have hfill := fillTokens_pendingLiteral pending [] []
    rw [List.append_nil] at hfill
    rw [scan, h, hfill, filledAfter, List.append_nil]
    exact congrArg some String.append_empty
  | cons c cs ih =>
    by_cases hplace : c = '_' ∧ standsAlone previous cs.head?
    · rw [scan, if_pos hplace, count_pendingLiteral, List.count_cons_self] at h
      obtain ⟨value, later, rfl⟩ := List.exists_cons_of_length_eq_add_one h
      rw [scan, if_pos hplace, fillTokens_pendingLiteral, fillTokens,
        ih (Nat.succ.inj h), filledAfter_place hplace, Option.map_some, Option.map_some]
      simp only [List.reverse_nil, List.nil_append, String.ofList_append, String.ofList_toList]
    · rw [scan, if_neg hplace] at h ⊢
      rw [ih h, filledAfter_char hplace, List.reverse_cons, List.append_assoc,
        List.singleton_append]

/-- **Filling the template of a name cell puts the values into the cell.** -/
theorem fill_parse {nameCell : String} {values : List String}
    (h : values.length = (parse nameCell).placeholderCount) :
    (parse nameCell).fill values = some (filledCell nameCell values) :=
  fillTokens_scan h

/-- No placeholder stands in front. -/
theorem head?_filledAfter (cs : List Char) (values : List String) :
    (filledAfter none cs values).head? = cs.head? := by
  cases cs with
  | nil => rfl
  | cons c cs =>
    have hfront : ¬ (c = '_' ∧ standsAlone none cs.head? = true) := fun h => nomatch h.2
    rw [filledAfter_char hfront]
    rfl

/-- The cell with values in it ends as the cell does, or else with a value. -/
theorem getLast?_filledAfter (previous : Option Char) (values : List String) {cs : List Char}
    {c : Char} (hc : cs.getLast? = some c) :
    (filledAfter previous cs values).getLast? = some c
      ∨ c = '_' ∧ ∃ value ∈ values, value.toList <:+ filledAfter previous cs values := by
  induction cs generalizing previous values with
  | nil => cases hc
  | cons d rest ih =>
    rcases filledAfter_cons previous d rest values with
      hfilled | ⟨rfl, value, later, rfl, hfilled⟩
    · rw [hfilled]
      cases rest with
      | nil => exact Or.inl hc
      | cons e rest =>
        rw [List.getLast?_cons_cons] at hc
        rcases ih _ _ hc with hlast | ⟨hplace, value, hvalue, hsuffix⟩
        · left
          rw [List.getLast?_cons, hlast]
          rfl
        · exact Or.inr ⟨hplace, value, hvalue, hsuffix.trans (List.suffix_cons _ _)⟩
    · rw [hfilled]
      cases rest with
      | nil =>
        refine Or.inr ⟨(Option.some.inj hc).symm, value, List.mem_cons_self, ?_⟩
        exact ⟨[], (List.append_nil _).symm⟩
      | cons e rest =>
        rw [List.getLast?_cons_cons] at hc
        rcases ih _ _ hc with hlast | ⟨hplace, other, hother, hsuffix⟩
        · left
          rw [List.getLast?_append, hlast]
          rfl
        · exact Or.inr ⟨hplace, other, List.mem_cons_of_mem _ hother,
            hsuffix.trans (List.suffix_append _ _)⟩

/-- A cell that is filled with values has blanks at its ends only where it had them before. -/
theorem bounded_filledAfter {cs : List Char} {values : List String}
    (hvalues : ∀ value ∈ values, IsValue value) (hcs : Bounded cs) :
    Bounded (filledAfter none cs values) := by
  refine ⟨fun c hc => hcs.1 c (head?_filledAfter cs values ▸ hc), fun c hc => ?_⟩
  cases hlast : cs.getLast? with
  | none =>
    rw [List.getLast?_eq_none_iff.mp hlast] at hc
    cases hc
  | some d =>
    rcases getLast?_filledAfter none values hlast with hsame | ⟨-, value, hvalue, hsuffix⟩
    · rw [hsame] at hc
      exact hcs.2 c (hlast.trans hc)
    · exact (hvalues value hvalue).last_of_suffix hsuffix c hc

/-- Blanks at the ends of a cell are there when it is filled, with whatever values. -/
theorem bounded_of_filledAfter {cs : List Char} {values : List String}
    (h : Bounded (filledAfter none cs values)) : Bounded cs := by
  refine ⟨fun c hc => h.1 c ((head?_filledAfter cs values).trans hc), fun c hc => ?_⟩
  rcases getLast?_filledAfter none values hc with hsame | ⟨rfl, -⟩
  · exact h.2 c hsame
  · decide

end NameTemplate

/-! ## Cells in turn with values in them -/

namespace Cells

/-- Alternating cells with values in place of the arguments. Arguments without a value stay. -/
def withValues : List String → List String → List String
  | cell :: _ :: rest, value :: later => cell :: value :: withValues rest later
  | cells, _ => cells

theorem fragments_cons (cell : String) (rest : List String) :
    fragments (cell :: rest) = cell :: fragments rest.tail := by
  cases rest <;> rfl

/-- Where an argument stands behind every fragment, so does a value. -/
theorem withValues_eq {cells values : List String}
    (harguments : values.length = (arguments cells).length)
    (hfragments : (fragments cells).length = values.length) :
    withValues cells values = inTurn ((fragments cells).zip values) := by
  fun_induction withValues cells values with
  | case1 cell argument rest value later ih =>
    exact congrArg (cell :: value :: ·) (ih (Nat.succ.inj harguments) (Nat.succ.inj hfragments))
  | case2 cells values hnone =>
    match cells, values with
    | [], _ => rfl
    | [_], _ => exact absurd (hfragments.trans harguments) Nat.one_ne_zero
    | _ :: _ :: _, [] => cases harguments
    | cell :: argument :: rest, value :: later => exact (hnone cell argument rest value later rfl rfl).elim

/-- Fragments with the values behind them, in one line and behind a space. -/
def slotText (slots : List (String × String)) : List Char :=
  slots.flatMap fun slot => ' ' :: slot.1.toList ++ ' ' :: slot.2.toList

/-- Slots written in turn and joined are their text behind the first value. -/
theorem toList_joined_inTurn (first value : String) (slots : List (String × String)) :
    (joined (inTurn ((first, value) :: slots))).toList
      = first.toList ++ ' ' :: (value.toList ++ slotText slots) := by
  have hslots : (inTurn slots).flatMap (fun cell => ' ' :: cell.toList) = slotText slots := by
    rw [inTurn, List.flatMap_assoc, slotText]
    refine List.flatMap_congr fun slot _ => ?_
    rw [List.flatMap_cons, List.flatMap_singleton]
  rw [inTurn, List.flatMap_cons, List.cons_append, toList_joined, ← hslots]
  rfl

/-- A line of slots ends with a value. -/
theorem exists_suffix_slotText {slots : List (String × String)} (h : slots ≠ []) :
    ∃ value ∈ slots.map Prod.snd, value.toList <:+ slotText slots := by
  obtain ⟨front, last, rfl⟩ := (List.eq_nil_or_concat' slots).resolve_left h
  refine ⟨last.2, List.mem_map_of_mem (List.mem_append_right _ List.mem_cons_self), ?_⟩
  refine ⟨slotText front ++ (' ' :: last.1.toList ++ [' ']), ?_⟩
  rw [slotText, slotText, List.flatMap_append, List.flatMap_singleton, List.append_assoc,
    List.append_assoc, List.singleton_append]

end Cells

namespace NameTemplate

open Text

/-- The later fragments, filled with their values, are the text of the slots. -/
theorem fillTokens_laterTokens (slots : List (String × String)) :
    fillTokens (laterTokens (slots.map Prod.fst)) (slots.map Prod.snd)
      = some (String.ofList (Cells.slotText slots)) := by
  induction slots with
  | nil => rfl
  | cons slot slots ih =>
    rw [List.map_cons, List.map_cons, laterTokens, List.flatMap_cons, fragmentTokens]
    change (Option.map _ (Option.map _ (fillTokens (laterTokens _) _))) = _
    rw [ih, Option.map_some, Option.map_some]
    refine congrArg some (String.toList_inj.mp ?_)
    simp [Cells.slotText]

/-- Blanks in front of the first fragment do not matter. -/
theorem alternating_trimStart (first : String) (later : List String) :
    alternating (String.ofList (trimStart first.toList) :: later) = alternating (first :: later) := by
  rw [alternating, alternating, String.toList_ofList, trimStart_trimStart]

/-- A blank fragment in front leaves no literal. -/
theorem alternating_blank {first : String} (hfirst : trimStart first.toList = [])
    (later : List String) : alternating (first :: later) = ⟨.placeholder :: laterTokens later⟩ := by
  rw [alternating, hfirst]
  rfl

/-- A text with a blank front, or with a front that begins after its blanks, trimmed in front. -/
theorem trimStart_append_space (first : List Char) {behind : List Char}
    (hbehind : trimStart behind = behind) : trimStart (first ++ ' ' :: behind)
      = if trimStart first = [] then behind else trimStart first ++ ' ' :: behind := by
  by_cases hblank : trimStart first = []
  · have hempty : (List.dropWhile isBlank first).isEmpty = true := List.isEmpty_iff.mpr hblank
    rw [if_pos hblank, trimStart, List.dropWhile_append, if_pos hempty,
      List.dropWhile_cons_of_pos (by decide)]
    exact hbehind
  · have hleft : ¬ (List.dropWhile isBlank first).isEmpty = true := mt List.isEmpty_iff.mp hblank
    rw [if_neg hblank, trimStart, List.dropWhile_append, if_neg hleft]
    rfl

/-- **Filling the template of fragments gives the row of fragments and values, trimmed.** -/
theorem fill_alternating (first : String) {value : String} {slots : List (String × String)}
    (hvalues : ∀ other ∈ value :: slots.map Prod.snd, IsValue other) :
    (alternating (first :: slots.map Prod.fst)).fill (value :: slots.map Prod.snd)
      = some (Text.trimmed (Cells.joined (Cells.inTurn ((first, value) :: slots)))) := by
  have hvalue := hvalues value List.mem_cons_self
  let behind := value.toList ++ Cells.slotText slots
  have hnonempty : behind ≠ [] := List.append_ne_nil_of_left_ne_nil hvalue.toList_ne_nil _
  have hstart : trimStart behind = behind := by
    refine trimStart_eq_self_iff.mpr fun c hc => hvalue.toList_bounded.1 c ?_
    rwa [List.head?_append_of_ne_nil _ hvalue.toList_ne_nil] at hc
  have hend (front : List Char) : trimEnd (front ++ behind) = front ++ behind := by
    refine trimEnd_eq_self_iff.mpr ?_
    rw [List.getLast?_append_of_ne_nil front hnonempty]
    cases slots with
    | nil => exact hvalue.last_of_suffix ⟨[], (List.append_nil _).symm⟩
    | cons slot slots =>
      obtain ⟨other, hother, hsuffix⟩ := Cells.exists_suffix_slotText (List.cons_ne_nil slot slots)
      exact (hvalues other (List.mem_cons_of_mem _ hother)).last_of_suffix
        (hsuffix.trans (List.suffix_append _ _))
  have hplace : fillTokens (.placeholder :: laterTokens (slots.map Prod.fst))
      (value :: slots.map Prod.snd) = some (String.ofList behind) := by
    rw [fillTokens, fillTokens_laterTokens, Option.map_some, String.ofList_append,
      String.ofList_toList]
  rw [Text.trimmed, Cells.toList_joined_inTurn, trim, trimStart_append_space _ hstart]
  split
  next hblank =>
    rw [alternating_blank hblank]
    exact hplace.trans (congrArg (some ∘ String.ofList) (hend []).symm)
  next htext =>
    obtain ⟨c, cs, hfirst⟩ := List.exists_cons_of_ne_nil htext
    have hc : isBlank c = false :=
      trimStart_eq_self_iff.mp (trimStart_trimStart first.toList) c (by rw [hfirst]; rfl)
    have hend := hend (trimStart first.toList ++ [' '])
    rw [List.append_assoc, List.singleton_append] at hend
    rw [hend, ← alternating_trimStart, alternating_eq (String.toList_ofList.trans hfirst) hc]
    refine (congrArg (Option.map _) hplace).trans (congrArg some (String.toList_inj.mp ?_))
    simp only [String.toList_append, String.toList_ofList, String.reduceToList, List.append_assoc,
      List.singleton_append]

end NameTemplate

/-! ## The phrase of a header -/

namespace Header

open NameTemplate in
/-- The number of values that the first row of a scenario table has places for. -/
def placeCount : List String → Nat
  | _ :: nameCell :: rest =>
    if (parse nameCell).isParameterized then (parse nameCell).placeholderCount
    else (Cells.arguments (nameCell :: rest)).length
  | _ => 0

open NameTemplate in
/-- The cells that the first row of a scenario table spells with values in its places. -/
def spelledCells (values : List String) : List String → List String
  | _ :: nameCell :: rest =>
    if (parse nameCell).isParameterized then [filledCell nameCell values]
    else Cells.withValues (nameCell :: rest) values
  | _ => []

end Header

namespace NameTemplate

open Text

/-- A filled name cell, trimmed as a row is, fits the template of the cell just if the cell has no
blanks at its ends. -/
theorem captures_filledCell {nameCell : String} {values : List String}
    (hcount : values.length = (parse nameCell).placeholderCount)
    (hvalues : ∀ value ∈ values, IsValue value) :
    ((parse nameCell).captures (trimmed (filledCell nameCell values))).isSome
      ↔ trimmed nameCell = nameCell := by
  have htrimmed (text : String) : trimmed text = text ↔ Bounded text.toList := by
    rw [← trim_eq_self_iff, ← String.toList_inj, trimmed, String.toList_ofList]
  rw [captures_isSome_iff, htrimmed]
  constructor
  · rintro ⟨others, hreads⟩
    have hfill := hreads.fill
    rw [fill_parse (length_of_fillTokens hfill), filledCell, trimmed, Option.some_inj,
      ← String.toList_inj, String.toList_ofList, String.toList_ofList] at hfill
    exact bounded_of_filledAfter (hfill ▸ bounded_trim _)
  · intro hbounded
    have hfilled : trimmed (filledCell nameCell values) = filledCell nameCell values := by
      rw [htrimmed, filledCell, String.toList_ofList]
      exact bounded_filledAfter hvalues hbounded
    refine ⟨values, ?_, fun value hvalue => (hvalues value hvalue).oneLine⟩
    rw [hfilled]
    exact fill_parse hcount

/-- A row of cells in turn with values in place of the arguments fits the template of its
fragments if an argument stands behind each. -/
theorem captures_withValues {cell : String} {rest values : List String}
    (harguments : values.length = (Cells.arguments (cell :: rest)).length)
    (hfragments : (Cells.fragments (cell :: rest)).length = values.length)
    (hvalues : ∀ value ∈ values, IsValue value) :
    ((alternating (Cells.fragments (cell :: rest))).captures
      (Registry.phraseOf (Cells.withValues (cell :: rest) values))).isSome := by
  refine captures_isSome_iff.mpr
    ⟨values, ?_, fun value hvalue => (hvalues value hvalue).oneLine⟩
  rw [Cells.withValues_eq harguments hfragments]
  rw [Cells.fragments_cons] at hfragments ⊢
  obtain ⟨value, others, rfl⟩ := List.exists_cons_of_length_eq_add_one hfragments.symm
  have hlater : (Cells.fragments rest.tail).length = others.length := Nat.succ.inj hfragments
  have hfragment := List.map_fst_zip hlater.le
  have hplace := List.map_snd_zip hlater.ge
  rw [← hplace] at hvalues
  have hfill := fill_alternating cell hvalues
  rwa [hfragment, hplace] at hfill

end NameTemplate

namespace Scenario

variable {tableId : String} {first : List String} {body : List (List String)}
  {scenario : Scenario} {values : List String}

/-- The header of a scenario whose name cell has placeholders is read from that cell. -/
theorem header_of_places {label nameCell : String} {rest : List String}
    (h : ofRows? tableId ((label :: nameCell :: rest) :: body) = .ok scenario)
    (hplaces : (NameTemplate.parse nameCell).isParameterized) :
    scenario.header = Header.ofParameterized nameCell rest := by
  have hheader : Header.ofRows? ((label :: nameCell :: rest) :: body)
      = .ok (Header.ofParameterized nameCell rest) := if_pos hplaces
  rw [ofRows?, hheader] at h
  cases h
  rfl

/-- **A scenario is invoked by the phrase that its header spells, unless padding or a last fragment
without an argument stands in the way.** -/
theorem captures?_spelled (hscenario : ofRows? tableId (first :: body) = .ok scenario)
    (htemplate : scenario.header.template?.isSome)
    (hcount : values.length = Header.placeCount first)
    (hvalues : ∀ value ∈ values, IsValue value) :
    (scenario.header.parameterized = true →
      ((scenario.captures? (Registry.phraseOf (Header.spelledCells values first))).isSome
        ↔ ∀ cell ∈ scenario.header.nameCells, Text.trimmed cell = cell))
    ∧ (scenario.header.parameterized = false →
      scenario.header.nameCells.length = values.length →
      (scenario.captures? (Registry.phraseOf (Header.spelledCells values first))).isSome) := by
  match first, hscenario, hcount with
  | label :: nameCell :: rest, hscenario, hcount =>
    cases hplaces : (NameTemplate.parse nameCell).isParameterized with
    | true =>
      have hheader := header_of_places hscenario hplaces
      rw [Header.placeCount, if_pos hplaces] at hcount
      rw [Header.spelledCells, if_pos hplaces, captures?, hheader]
      refine ⟨fun _ => ?_, nofun⟩
      have hcell := NameTemplate.captures_filledCell hcount hvalues
      rw [show (Header.ofParameterized nameCell rest).nameCells = [nameCell] from rfl,
        List.forall_mem_singleton]
      exact hcell
    | false =>
      have hheader := header_of_plain hscenario hplaces
      rw [Header.placeCount, if_neg (Bool.eq_false_iff.mp hplaces)] at hcount
      rw [hheader] at htemplate
      rw [Header.spelledCells, if_neg (Bool.eq_false_iff.mp hplaces), captures?, hheader]
      refine ⟨nofun, fun _ hfragments => ?_⟩
      obtain ⟨template, htemplate⟩ := Option.isSome_iff_exists.mp htemplate
      have hfragmented : template
          = NameTemplate.alternating (Cells.fragments (nameCell :: rest)) := by
        rw [Header.template?, if_neg (by exact Bool.false_ne_true), Option.ite_none_left_eq_some]
          at htemplate
        exact (Option.some.inj htemplate.2).symm
      rw [Header.captures?, htemplate, Option.bind_some, hfragmented]
      exact NameTemplate.captures_withValues hcount hfragments hvalues

/-- The name of the first header has no blanks at its ends; in the second an argument stands behind
both fragments, one of which is blank. -/
theorem captures?_spelled_transfer :
    (∃ scenario, ofRows? "table_0" [["scenario", "send _ to (_)", "x"]] = .ok scenario
        ∧ (scenario.captures? "send 5 EUR to (bob)").isSome)
      ∧ ∃ scenario, ofRows? "table_0" [["scenario", "send", "sum?", " ", "to"]] = .ok scenario
        ∧ (scenario.captures? "send 5 EUR   bob").isSome := by
  have hvalues : ∀ value ∈ ["5 EUR", "bob"], IsValue value :=
    List.forall_mem_cons.mpr ⟨⟨by decide, by decide, by decide +kernel⟩,
      List.forall_mem_singleton.mpr ⟨by decide, by decide, by decide +kernel⟩⟩
  have hsend : ofRows? "table_0" [["scenario", "send _ to (_)", "x"]]
      = .ok ⟨"table_0", [["scenario", "send _ to (_)", "x"]],
        Header.ofParameterized "send _ to (_)" ["x"]⟩ := rfl
  have hturn : ofRows? "table_0" [["scenario", "send", "sum?", " ", "to"]]
      = .ok ⟨"table_0", [["scenario", "send", "sum?", " ", "to"]],
        Header.ofAlternating ["send", "sum?", " ", "to"]⟩ := rfl
  refine ⟨⟨_, hsend, ?_⟩, ⟨_, hturn, ?_⟩⟩
  · have hphrase : Registry.phraseOf (Header.spelledCells ["5 EUR", "bob"]
        ["scenario", "send _ to (_)", "x"]) = "send 5 EUR to (bob)" := by decide +kernel
    rw [← hphrase]
    exact ((captures?_spelled hsend (by decide +kernel) (by decide +kernel) hvalues).1
      (by decide +kernel)).mpr (by decide +kernel)
  · have hphrase : Registry.phraseOf (Header.spelledCells ["5 EUR", "bob"]
        ["scenario", "send", "sum?", " ", "to"]) = "send 5 EUR   bob" := by decide +kernel
    rw [← hphrase]
    exact (captures?_spelled hturn (by decide +kernel) (by decide +kernel) hvalues).2
      (by decide +kernel) (by decide +kernel)

/-- A header does not always spell a phrase that invokes its scenario, in either layout: the name
cell may have blanks at its ends, and no argument need stand behind the last fragment. -/
theorem not_captured_for_all_headers :
    ¬ ∃ parameterized, ∀ (tableId : String) (first : List String) (body : List (List String))
      (scenario : Scenario) (values : List String),
      ofRows? tableId (first :: body) = .ok scenario →
      scenario.header.parameterized = parameterized → scenario.header.template?.isSome →
      values.length = Header.placeCount first → (∀ value ∈ values, IsValue value) →
      (scenario.captures? (Registry.phraseOf (Header.spelledCells values first))).isSome := by
  rintro ⟨parameterized, h⟩
  have hone : ∀ value ∈ ["bob"], IsValue value :=
    List.forall_mem_singleton.mpr ⟨by decide, by decide, by decide +kernel⟩
  cases parameterized with
  | true =>
    have hpadded := h "table_0" ["scenario", " add _", "x"] [] _ ["bob"] rfl (by decide +kernel)
      (by decide +kernel) (by decide +kernel) hone
    revert hpadded
    decide +kernel
  | false =>
    have hlast := h "table_0" ["scenario", "login", "user", "now"] [] _ ["bob"] rfl
      (by decide +kernel) (by decide +kernel) (by decide +kernel) hone
    revert hlast
    decide +kernel

end Scenario

end ScenarioTables
