import Mathlib.Data.List.DropRight
import ScenarioTables.Proofs.Layouts
import ScenarioTables.Proofs.Places

/-!
# The arguments that a header declares

Where the texts of the declared arguments stand in a first row is said by `Header.Declares`, apart
from how they are looked up: between the commas of the cell behind a name with a place, up to the
last piece that is not blank, and otherwise in every second cell. A first row of two cells or more
has a header, and its texts go one by one into the inputs, in order, or into the set of outputs
(`Header.ofRows?_declares`). Commas and blanks behind the last piece change nothing, neither the
arguments nor anything else in the header.

Places are found one character at a time; that a name has one if an underscore in it stands alone is
`NameTemplate.isParameterized_iff`. Of the names of arguments it is said only which text each one
comes from.
-/

set_option autoImplicit false

namespace ScenarioTables

/-! ## Blanks -/

namespace Text

/-- A text without anything but blanks in it. -/
def AllBlank (text : String) : Prop :=
  ∀ c ∈ text.toList, isBlank c = true

instance (text : String) : Decidable (AllBlank text) :=
  decidable_of_iff (text.toList.all isBlank = true) List.all_eq_true

theorem trim_eq_nil_iff {cs : List Char} : trim cs = [] ↔ ∀ c ∈ cs, isBlank c = true := by
  constructor
  · intro h c hc
    have hrest : ∀ d ∈ trimStart cs, isBlank d = true := List.rdropWhile_eq_nil_iff.mp h
    rw [← @List.takeWhile_append_dropWhile _ isBlank cs] at hc
    rcases List.mem_append.mp hc with hfront | hback
    · exact List.mem_takeWhile_imp hfront
    · exact hrest c hback
  · intro h
    rw [trim, trimStart, List.dropWhile_eq_nil_iff.mpr h]
    rfl

/-- A blank at the end of a text is trimmed away. -/
theorem trim_concat_blank (cs : List Char) {c : Char} (h : isBlank c = true) :
    trim (cs ++ [c]) = trim cs := by
  by_cases hblank : ∀ d ∈ cs, isBlank d = true
  · rw [trim_eq_nil_iff.mpr hblank, trim_eq_nil_iff]
    intro d hd
    rcases List.mem_append.mp hd with hd | hd
    · exact hblank d hd
    · rw [List.mem_singleton.mp hd]
      exact h
  · have hstart : trimStart (cs ++ [c]) = trimStart cs ++ [c] := by
      rw [trimStart, List.dropWhile_append, if_neg]
      · rfl
      · rw [List.isEmpty_iff, List.dropWhile_eq_nil_iff]
        exact hblank
    rw [trim, hstart]
    exact List.rdropWhile_concat_pos _ _ _ h

/-- No piece of a split text holds the character that it was split at. -/
theorem not_mem_of_mem_splitOn {separator : Char} {cs piece : List Char}
    (h : piece ∈ cs.splitOn separator) : separator ∉ piece := by
  induction cs generalizing piece with
  | nil =>
    rw [List.splitOn_nil, List.mem_singleton] at h
    simp [h]
  | cons c cs ih =>
    obtain ⟨first, rest, hpieces⟩ :=
      List.exists_cons_of_ne_nil (List.splitOn_ne_nil separator cs)
    rw [List.splitOn_cons_eq_if_modifyHead] at h
    split at h
    next =>
      rcases List.mem_cons.mp h with rfl | hrest
      · exact List.not_mem_nil
      · exact ih hrest
    next hc =>
      rw [hpieces, List.modifyHead_cons] at h
      rcases List.mem_cons.mp h with rfl | hrest
      · refine List.not_mem_cons_of_ne_of_not_mem ?_ (ih (hpieces ▸ List.mem_cons_self))
        rintro rfl
        exact hc (beq_self_eq_true separator)
      · exact ih (hpieces ▸ List.mem_cons_of_mem first hrest)

/-- A character that does not split a text goes to its last piece. -/
theorem exists_splitOn_concat {separator c : Char} (h : c ≠ separator) (cs : List Char) :
    ∃ front last, cs.splitOn separator = front ++ [last]
      ∧ (cs ++ [c]).splitOn separator = front ++ [last ++ [c]] := by
  induction cs with
  | nil => exact ⟨[], [], rfl, by simp [List.splitOn_cons_eq_if_modifyHead, h]⟩
  | cons d cs ih =>
    obtain ⟨front, last, hpieces, hlonger⟩ := ih
    rw [List.cons_append, List.splitOn_cons_eq_if_modifyHead, List.splitOn_cons_eq_if_modifyHead,
      hpieces, hlonger]
    split
    next => exact ⟨[] :: front, last, rfl, rfl⟩
    next =>
      cases front with
      | nil => exact ⟨[], d :: last, rfl, rfl⟩
      | cons first front => exact ⟨(d :: first) :: front, last, rfl, rfl⟩

end Text

/-- Blanks around a text make no difference to its method-style name. -/
theorem Identifier.methodName_trim (text : String) :
    methodName (String.ofList (Text.trim text.toList)) = methodName text := by
  rw [methodName, methodName, String.toList_ofList, methodStyle, methodStyle, Text.words_trim]

/-! ## Places -/

namespace NameTemplate

/-- **A name cell with a place**: in it an underscore stands behind a character that is not an ASCII
word character, and no such character stands behind the underscore. -/
def HoldsPlace (cell : String) : Prop :=
  ∃ before c behind, cell.toList = before ++ c :: '_' :: behind
    ∧ Text.isAsciiWord c = false ∧ ∀ next ∈ behind.head?, Text.isAsciiWord next = false

/-- A name has a place if an underscore in it stands alone. -/
theorem isParameterized_iff {cell : String} :
    (parse cell).isParameterized = true ↔ HoldsPlace cell := by
  have hmem : (parse cell).isParameterized = true ↔ Token.placeholder ∈ (parse cell).tokens :=
    decide_eq_true_iff.trans List.count_pos_iff
  rw [hmem, placeholder_mem_iff, exists_congr (mem_placeIndices_parse cell)]
  constructor
  · rintro ⟨index, hplace⟩
    obtain ⟨before, c, behind, hcell, -, hc, hnext⟩ := standsAloneAt_iff.mp hplace
    exact ⟨before, c, behind, hcell, hc, hnext⟩
  · rintro ⟨before, c, behind, hcell, hc, hnext⟩
    exact ⟨_, standsAloneAt_iff.mpr ⟨before, c, behind, hcell, rfl, hc, hnext⟩⟩

end NameTemplate

/-! ## Arguments one by one -/

namespace Argument

/-- A text that ends in a question mark, blanks apart, declares an output. -/
theorem ofText_output {text : String} {front : List Char}
    (h : Text.trim text.toList = front ++ ['?']) :
    ofText text = .output (Identifier.methodName (String.ofList front)) := by
  unfold ofText
  rw [h, List.reverse_append]
  change output (Identifier.methodName (String.ofList front.reverse.reverse)) = _
  rw [List.reverse_reverse]

/-- Any other text declares an input. -/
theorem ofText_input {text : String} (h : (Text.trim text.toList).getLast? ≠ some '?') :
    ofText text = .input (Identifier.methodName text) := by
  rw [← List.head?_reverse] at h
  unfold ofText
  split
  next reversed hreversed =>
    rw [hreversed] at h
    exact absurd rfl h
  next => rw [List.reverse_reverse, Identifier.methodName_trim]

/-- Texts that are the same when trimmed declare the same argument. -/
theorem ofText_congr {text other : String} (h : Text.trim text.toList = Text.trim other.toList) :
    ofText text = ofText other := by
  rw [ofText, h, ofText]

/-- The inputs are the texts without a question mark at the end, in order. -/
theorem inputs_eq (texts : List String) : (texts.map ofText).filterMap input?
    = (texts.filter fun text => (Text.trim text.toList).getLast? ≠ some '?').map
        Identifier.methodName := by
  induction texts with
  | nil => rfl
  | cons text texts ih =>
    rw [List.map_cons]
    by_cases hlast : (Text.trim text.toList).getLast? = some '?'
    · obtain ⟨front, hfront⟩ := List.getLast?_eq_some_iff.mp hlast
      rw [ofText_output hfront, List.filterMap_cons_none rfl, List.filter_cons_of_neg (by simpa), ih]
    · rw [ofText_input hlast, List.filter_cons_of_pos (by simpa), List.map_cons, ← ih]
      rfl

/-- The outputs are the names of the other texts without their last question mark. -/
theorem mem_outputs_iff {texts : List String} {name : String} :
    name ∈ (texts.map ofText).filterMap output?
      ↔ ∃ text ∈ texts, ∃ front, Text.trim text.toList = front ++ ['?']
        ∧ name = Identifier.methodName (String.ofList front) := by
  simp only [List.mem_filterMap, List.mem_map, exists_exists_and_eq_and]
  refine exists_congr fun text => and_congr_right fun _ => ?_
  by_cases hlast : (Text.trim text.toList).getLast? = some '?'
  · obtain ⟨front, hfront⟩ := List.getLast?_eq_some_iff.mp hlast
    rw [ofText_output hfront, hfront]
    constructor
    · intro hname
      exact ⟨front, rfl, (Option.some.inj hname).symm⟩
    · rintro ⟨other, hother, rfl⟩
      rw [List.append_left_injective _ hother]
      rfl
  · rw [ofText_input hlast]
    refine iff_of_false nofun ?_
    rintro ⟨front, hfront, -⟩
    rw [hfront, List.getLast?_concat] at hlast
    exact hlast rfl

end Argument

/-! ## The texts of the arguments -/

/-- The arguments are the cells at the odd places. -/
theorem Cells.getElem?_arguments (cells : List String) (place : Nat) :
    (arguments cells)[place]? = cells[2 * place + 1]? := by
  fun_induction arguments cells generalizing place with
  | case1 => simp
  | case2 => simp
  | case3 _ cell rest ih =>
    cases place with
    | zero => rfl
    | succ place =>
      rw [List.getElem?_cons_succ, ih, show 2 * (place + 1) + 1 = 2 * place + 1 + 1 + 1 by omega,
        List.getElem?_cons_succ, List.getElem?_cons_succ]

namespace Header

/-- **The pieces of a text between its commas**: no piece has a comma, and with commas between them
they are the text. -/
structure Pieces (text : String) (pieces : List String) : Prop where
  nonempty : pieces ≠ []
  plain : ∀ piece ∈ pieces, ',' ∉ piece.toList
  joined : commaList pieces = text

/-- **The texts of the arguments that a first row declares.** -/
inductive Declares (cells : List String) : List String → Prop where
  /-- Behind a name with a place there is no cell. -/
  | unlisted {nameCell : String} (name : cells[1]? = some nameCell)
      (place : NameTemplate.HoldsPlace nameCell) (missing : cells[2]? = none) : Declares cells []
  /-- The cell behind a name with a place holds the texts between commas, and behind them only blank
  pieces. -/
  | listed {nameCell cell : String} {texts blanks : List String} (name : cells[1]? = some nameCell)
      (place : NameTemplate.HoldsPlace nameCell) (list : cells[2]? = some cell)
      (pieces : Pieces cell (texts ++ blanks)) (blank : ∀ piece ∈ blanks, Text.AllBlank piece)
      (last : ∀ text ∈ texts.getLast?, ¬ Text.AllBlank text) : Declares cells texts
  /-- Behind a name without a place the texts are the cells at columns 2, 4, 6 and so on. -/
  | inTurn {nameCell : String} {texts : List String} (name : cells[1]? = some nameCell)
      (place : ¬ NameTemplate.HoldsPlace nameCell)
      (columns : ∀ place, texts[place]? = cells[2 * place + 2]?) : Declares cells texts

/-- The texts that are looked up in the cells behind the label. -/
def declaredTexts (nameCell : String) (rest : List String) : List String :=
  if (NameTemplate.parse nameCell).isParameterized then (rest.head?.map argumentTexts).getD []
  else Cells.arguments (nameCell :: rest)

/-- A piece of a text that is dropped where it stands behind the last argument. -/
def isBlankPiece (piece : List Char) : Bool :=
  (Text.trim piece).isEmpty

/-- A blank piece is a text of blanks. -/
theorem isBlankPiece_iff {piece : List Char} :
    isBlankPiece piece = true ↔ Text.AllBlank (String.ofList piece) := by
  rw [isBlankPiece, List.isEmpty_iff, Text.trim_eq_nil_iff, Text.AllBlank, String.toList_ofList]

/-- The texts of a cell are its pieces between commas, without the blank ones at the end. -/
theorem argumentTexts_eq_rdropWhile (cell : String) : argumentTexts cell
    = ((cell.toList.splitOn ',').rdropWhile isBlankPiece).map String.ofList :=
  rfl

/-- The pieces of a text between its commas are the texts of the arguments and blank ones. -/
theorem pieces_argumentTexts (cell : String) : ∃ blanks, Pieces cell (argumentTexts cell ++ blanks)
    ∧ (∀ piece ∈ blanks, Text.AllBlank piece)
    ∧ ∀ text ∈ (argumentTexts cell).getLast?, ¬ Text.AllBlank text := by
  rw [argumentTexts_eq_rdropWhile]
  let pieces := cell.toList.splitOn ','
  have hpieces : (pieces.rdropWhile isBlankPiece).map String.ofList
      ++ (pieces.rtakeWhile isBlankPiece).map String.ofList = pieces.map String.ofList := by
    rw [← List.map_append, List.rdropWhile_append_rtakeWhile]
  refine ⟨(pieces.rtakeWhile isBlankPiece).map String.ofList, ?_, ?_, ?_⟩
  · rw [hpieces]
    refine ⟨by simp [pieces], ?_, ?_⟩
    · intro text htext
      obtain ⟨piece, hpiece, rfl⟩ := List.mem_map.mp htext
      rw [String.toList_ofList]
      exact Text.not_mem_of_mem_splitOn hpiece
    · have hback : String.toList ∘ String.ofList = id := funext fun _ => String.toList_ofList
      rw [commaList, List.map_map, hback, List.map_id, List.intercalate_splitOn,
        String.ofList_toList]
  · intro blank hblank
    obtain ⟨piece, hpiece, rfl⟩ := List.mem_map.mp hblank
    exact isBlankPiece_iff.mp (List.mem_rtakeWhile_imp hpiece)
  · intro text htext
    rw [List.getLast?_map] at htext
    obtain ⟨piece, hpiece, rfl⟩ := Option.map_eq_some_iff.mp htext
    obtain ⟨front, hfront⟩ := List.getLast?_eq_some_iff.mp hpiece
    have hnonempty : pieces.rdropWhile isBlankPiece ≠ [] := by simp [pieces, hfront]
    have hlast := List.rdropWhile_last_not isBlankPiece pieces hnonempty
    simp only [pieces, hfront, List.getLast_concat] at hlast
    exact mt isBlankPiece_iff.mpr hlast

/-- The texts that are looked up are those that are declared. -/
theorem declares_iff {label nameCell : String} {rest texts : List String} :
    Declares (label :: nameCell :: rest) texts ↔ texts = declaredTexts nameCell rest := by
  constructor
  · intro h
    cases h with
    | unlisted name place missing =>
      cases name
      cases rest with
      | nil => rw [declaredTexts, if_pos (NameTemplate.isParameterized_iff.mpr place)]; rfl
      | cons => cases missing
    | listed name place list pieces blank last =>
      cases name
      cases rest with
      | nil => cases list
      | cons cell rest =>
        cases list
        rw [declaredTexts, if_pos (NameTemplate.isParameterized_iff.mpr place), ← pieces.joined]
        symm
        refine argumentTexts_commaList pieces.nonempty pieces.plain (fun piece hpiece => ?_) ?_
        · exact Text.trim_eq_nil_iff.mpr (blank piece hpiece)
        · exact fun text htext => mt Text.trim_eq_nil_iff.mp (last text htext)
    | inTurn name place columns =>
      cases name
      rw [declaredTexts, if_neg (mt NameTemplate.isParameterized_iff.mp place)]
      apply List.ext_getElem?
      intro place
      rw [columns, Cells.getElem?_arguments, List.getElem?_cons_succ]
  · rintro rfl
    rw [declaredTexts]
    split
    next hplace =>
      have hholds := NameTemplate.isParameterized_iff.mp hplace
      cases rest with
      | nil => exact .unlisted rfl hholds rfl
      | cons cell rest =>
        obtain ⟨blanks, hpieces, hblanks, hlast⟩ := pieces_argumentTexts cell
        exact .listed rfl hholds rfl hpieces hblanks hlast
    next hplace =>
      refine .inTurn rfl (mt NameTemplate.isParameterized_iff.mpr hplace) fun place => ?_
      rw [Cells.getElem?_arguments]
      rfl

/-! ## Commas and blanks behind the arguments -/

/-- One more comma or blank at the end declares the same arguments. -/
theorem map_argumentTexts_concat (cs : List Char) {c : Char}
    (h : c = ',' ∨ Text.isBlank c = true) :
    (argumentTexts (String.ofList (cs ++ [c]))).map Argument.ofText
      = (argumentTexts (String.ofList cs)).map Argument.ofText := by
  rw [argumentTexts_eq_rdropWhile, argumentTexts_eq_rdropWhile, String.toList_ofList,
    String.toList_ofList]
  by_cases hcomma : c = ','
  · -- A comma ends the last piece and begins an empty one.
    have hempty : (cs ++ [c]).splitOn ',' = cs.splitOn ',' ++ [[]] := by
      rw [hcomma, List.splitOn_append_cons_self, List.splitOn_nil]
    rw [hempty, List.rdropWhile_concat_pos _ _ _ rfl]
  · have hblank := h.resolve_left hcomma
    obtain ⟨front, last, hpieces, hlonger⟩ := Text.exists_splitOn_concat hcomma cs
    have hsame : Text.trim (last ++ [c]) = Text.trim last := Text.trim_concat_blank last hblank
    rw [hpieces, hlonger]
    have hboth : isBlankPiece (last ++ [c]) = isBlankPiece last := congrArg List.isEmpty hsame
    by_cases hdropped : isBlankPiece last = true
    · have hlonger := hboth.trans hdropped
      rw [List.rdropWhile_concat_pos _ _ _ hdropped, List.rdropWhile_concat_pos _ _ _ hlonger]
    · have hlonger : ¬ isBlankPiece (last ++ [c]) = true := hboth ▸ hdropped
      rw [List.rdropWhile_concat_neg _ _ _ hdropped, List.rdropWhile_concat_neg _ _ _ hlonger]
      have hargument : Argument.ofText (String.ofList (last ++ [c]))
          = Argument.ofText (String.ofList last) :=
        Argument.ofText_congr (by rw [String.toList_ofList, String.toList_ofList, hsame])
      simp only [List.map_append, List.map_cons, List.map_nil, hargument]

/-- Any commas and blanks at the end declare the same arguments. -/
theorem map_argumentTexts_append (cell : String) {run : String}
    (h : ∀ c ∈ run.toList, c = ',' ∨ Text.isBlank c = true) :
    (argumentTexts (cell ++ run)).map Argument.ofText
      = (argumentTexts cell).map Argument.ofText := by
  have hrun (cs run : List Char) (h : ∀ c ∈ run, c = ',' ∨ Text.isBlank c = true) :
      (argumentTexts (String.ofList (cs ++ run))).map Argument.ofText
        = (argumentTexts (String.ofList cs)).map Argument.ofText := by
    induction run generalizing cs with
    | nil => rw [List.append_nil]
    | cons c run ih =>
      obtain ⟨hc, hrun⟩ := List.forall_mem_cons.mp h
      rw [← map_argumentTexts_concat cs hc, ← ih (cs ++ [c]) hrun, List.append_assoc]
      rfl
  have := hrun cell.toList run.toList h
  rwa [String.ofList_append, String.ofList_toList, String.ofList_toList] at this

/-- A header depends on the texts of its arguments only through the arguments. -/
theorem declare_congr {texts other : List String}
    (h : texts.map Argument.ofText = other.map Argument.ofText) (name : String)
    (parameterized : Bool) (nameCells : List String) :
    declare name parameterized nameCells texts = declare name parameterized nameCells other := by
  rw [declare, h, declare]

/-! ## Headers -/

/-- **Every declared argument lands once.** A table whose first row has two cells or more has a
header, and some texts are declared. The inputs are the method-style names of the texts that, blanks
apart, do not end in a question mark, in order; the outputs are the names of the others without that
mark. Behind a name with a place, commas and blanks at the end of the next cell change nothing. -/
theorem ofRows?_declares {rows : List (List String)} {cells : List String}
    (hrow : rows.head? = some cells) (htwo : 2 ≤ cells.length) :
    ∃ header, ofRows? rows = .ok header
      ∧ (∃ texts, Declares cells texts)
      ∧ (∀ texts, Declares cells texts →
          header.inputs
              = (texts.filter fun text => (Text.trim text.toList).getLast? ≠ some '?').map
                  Identifier.methodName
            ∧ ∀ name, name ∈ header.outputs
                ↔ ∃ text ∈ texts, ∃ front, Text.trim text.toList = front ++ ['?']
                  ∧ name = Identifier.methodName (String.ofList front))
      ∧ ∀ nameCell cell run, cells[1]? = some nameCell → NameTemplate.HoldsPlace nameCell →
          cells[2]? = some cell → (∀ c ∈ run.toList, c = ',' ∨ Text.isBlank c = true) →
          ofRows? (cells.set 2 (cell ++ run) :: rows.tail) = .ok header := by
  match cells, htwo with
  | label :: nameCell :: rest, _ =>
    have hcells : ofRows? rows = ofCells? (label :: nameCell :: rest) := by
      rw [ofRows?, hrow]
      rfl
    obtain ⟨name, parameterized, nameCells, hheader⟩ : ∃ name parameterized nameCells,
        ofCells? (label :: nameCell :: rest)
          = .ok (declare name parameterized nameCells (declaredTexts nameCell rest)) := by
      rw [ofCells?, declaredTexts]
      split
      next => exact ⟨_, _, _, rfl⟩
      next => exact ⟨_, _, _, rfl⟩
    refine ⟨_, hcells.trans hheader, ⟨_, declares_iff.mpr rfl⟩, fun texts htexts => ?_, ?_⟩
    · rw [declares_iff.mp htexts]
      refine ⟨Argument.inputs_eq _, fun name => ?_⟩
      exact NameSet.mem_ofList.trans Argument.mem_outputs_iff
    · intro nameCell' cell run hname hplace hcell hrun
      cases hname
      cases rest with
      | nil => cases hcell
      | cons list rest =>
        cases hcell
        have hparameterized := NameTemplate.isParameterized_iff.mpr hplace
        rw [← hheader]
        change ofCells? (label :: nameCell :: (cell ++ run) :: rest) = _
        rw [ofCells?, ofCells?, if_pos hparameterized, if_pos hparameterized]
        exact congrArg Except.ok (declare_congr (map_argumentTexts_append cell hrun) _ _ _)

/-- Of five pieces the two blank ones at the end are dropped. The blank one between the others is an
input, and the last text is an output of the same name as the first. -/
theorem ofRows?_declares_mixing : ∃ header,
    ofRows? [["scenario", "mix _ by _", "total sum,, total sum ?, ,"], ["echo"]] = .ok header
      ∧ header.inputs = ["totalSum", ""] ∧ "totalSum" ∈ header.outputs
      ∧ ofRows? [["scenario", "mix _ by _", "total sum,, total sum ?, ,\u3000,\t"], ["echo"]]
        = .ok header := by
  let cells := ["scenario", "mix _ by _", "total sum,, total sum ?, ,"]
  have hrow : [cells, ["echo"]].head? = some cells := rfl
  obtain ⟨header, hheader, -, hdeclared, hbehind⟩ := ofRows?_declares hrow (by decide)
  have hplace : NameTemplate.HoldsPlace "mix _ by _" :=
    NameTemplate.isParameterized_iff.mp (by decide)
  have hpieces : Pieces "total sum,, total sum ?, ,"
      (["total sum", "", " total sum ?"] ++ [" ", ""]) := ⟨by simp, by decide, rfl⟩
  have hblank : ∀ piece ∈ [" ", ""], Text.AllBlank piece := by decide
  have hlast : ¬ Text.AllBlank " total sum ?" := by decide
  have hrun : ∀ c ∈ "\u3000,\t".toList, c = ',' ∨ Text.isBlank c = true := by
    have hall : ("\u3000,\t".toList.all fun c => c == ',' || Text.isBlank c) = true := by decide
    simpa only [List.all_eq_true, Bool.or_eq_true, beq_iff_eq] using hall
  obtain ⟨hinputs, houtputs⟩ := hdeclared ["total sum", "", " total sum ?"]
    (.listed rfl hplace rfl hpieces hblank fun text htext => Option.some.inj htext ▸ hlast)
  refine ⟨header, hheader, hinputs.trans (by decide +kernel), (houtputs _).mpr ?_, ?_⟩
  · exact ⟨" total sum ?", by decide, "total sum ".toList, rfl, by decide +kernel⟩
  · exact hbehind "mix _ by _" "total sum,, total sum ?, ," "\u3000,\t" rfl hplace rfl hrun

end Header

end ScenarioTables
