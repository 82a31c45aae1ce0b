import Mathlib.Data.List.TakeWhile
import ScenarioTables.Header
import ScenarioTables.Proofs.Resolution

/-!
# The two layouts of a header

A name with arguments can be declared in two layouts: the fragments of the name with placeholders
between them in one cell and the arguments, separated by commas, in the next, or fragments and
arguments in turn, each in a cell of its own. The layouts are read in different ways, and they
declare the same (`Header.ofRows?_layouts`): reading the placeholders gives the template that the
fragments make (`NameTemplate.parse_joined`), the two texts that the name is taken from have the
same words (`Text.words_append_separator`), and splitting at commas gives the arguments back
(`Header.argumentTexts_commaList`).

`Header.Slotted` says which fragments and arguments both layouts can hold. Only the first fragment
has to have text; a blank one behind it leaves two places with nothing but spaces between them.
-/

set_option autoImplicit false

namespace ScenarioTables

/-! ## Words around separators -/

namespace Text

/-- **Words end at a separator.** The words of two texts with a separator between them are those of
the first and then those of the second. -/
theorem words_append_separator {separator : Char} (h : isWordChar separator = false)
    (cs rest : List Char) : words (cs ++ separator :: rest) = words cs ++ words rest := by
  have hsplits : (!isWordChar separator) = true := by rw [h]; rfl
  have hpieces := List.splitOnP_append_cons (p := (!isWordChar ·)) cs rest hsplits
  exact (congrArg (List.filter (!·.isEmpty)) hpieces).trans (List.filter_append _ _)

/-- A separator in front of a text makes no word. -/
theorem words_cons_separator {separator : Char} (h : isWordChar separator = false)
    (rest : List Char) : words (separator :: rest) = words rest :=
  words_append_separator h [] rest

theorem isWordChar_space : isWordChar ' ' = false := by decide +kernel

/-- Trimming takes nothing from in front of a text just if that does not begin with a blank. -/
theorem trimStart_eq_self_iff {cs : List Char} :
    trimStart cs = cs ↔ ∀ c ∈ cs.head?, isBlank c = false := by
  cases cs with
  | nil => simp
  | cons c cs => simp [trimStart, List.dropWhile_eq_self_iff]

theorem words_trimStart (cs : List Char) : words (trimStart cs) = words cs := by
  induction cs with
  | nil => rfl
  | cons c cs ih =>
    rw [trimStart, List.dropWhile_cons]
    split
    next hblank => exact ih.trans (words_cons_separator (isWordChar_of_isBlank hblank) cs).symm
    next => rfl

/-- Blanks at the end are in no word. -/
theorem words_append_blanks (cs : List Char) {blanks : List Char}
    (h : ∀ c ∈ blanks, isBlank c = true) : words (cs ++ blanks) = words cs := by
  induction blanks generalizing cs with
  | nil => rw [List.append_nil]
  | cons c blanks ih =>
    have hc := isWordChar_of_isBlank (h c List.mem_cons_self)
    have hblanks := ih [] fun other hother => h other (List.mem_cons_of_mem _ hother)
    rw [words_append_separator hc, ← List.nil_append blanks, hblanks]
    exact List.append_nil _

/-- A text ends in the blanks that trimming its end takes away. -/
theorem exists_trimEnd (cs : List Char) :
    ∃ blanks, cs = trimEnd cs ++ blanks ∧ ∀ c ∈ blanks, isBlank c = true := by
  refine ⟨(cs.reverse.takeWhile isBlank).reverse, ?_, fun c hc => ?_⟩
  · rw [trimEnd, ← List.reverse_append, List.takeWhile_append_dropWhile, List.reverse_reverse]
  · exact List.mem_takeWhile_imp (List.mem_reverse.mp hc)

/-- Trimming takes no word away. -/
theorem words_trim (cs : List Char) : words (trim cs) = words cs := by
  obtain ⟨blanks, hblanks, hblank⟩ := exists_trimEnd (trimStart cs)
  have hends := words_append_blanks (trim cs) hblank
  rw [show trim cs ++ blanks = trimStart cs from hblanks.symm] at hends
  exact hends.symm.trans (words_trimStart cs)

/-- Trimming adds no character. -/
theorem mem_of_mem_trim {c : Char} {cs : List Char} (h : c ∈ trim cs) : c ∈ cs := by
  have hstart : c ∈ trimStart cs :=
    List.mem_reverse.mp (List.dropWhile_subset _ (List.mem_reverse.mp h))
  exact List.dropWhile_subset _ hstart

/-- A text that begins with a character that is not blank does not trim to nothing. -/
theorem trim_cons_ne_nil {c : Char} (h : isBlank c = false) (cs : List Char) :
    trim (c :: cs) ≠ [] := by
  have hstart : trimStart (c :: cs) = c :: cs :=
    trimStart_eq_self_iff.mpr fun first hfirst => Option.some.inj hfirst ▸ h
  obtain ⟨blanks, hblanks, hblank⟩ := exists_trimEnd (c :: cs)
  intro hnil
  rw [trim, hstart] at hnil
  rw [hnil, List.nil_append] at hblanks
  have := hblank c (hblanks ▸ List.mem_cons_self)
  rw [h] at this
  cases this

end Text

namespace Identifier

open Text

/-- A text without full stops and dollar signs takes its identifier from its words. -/
theorem classStyle_of_plain {cs : List Char} (hdot : '.' ∉ cs) (hdollar : '$' ∉ cs) :
    classStyle cs = (words cs).flatMap capitalize := by
  rw [classStyle, isQualified_of_not_mem hdot hdollar]
  rfl

theorem className_of_plain {cs : List Char} (hdot : '.' ∉ cs) (hdollar : '$' ∉ cs) :
    className (String.ofList (trim cs)) = String.ofList ((words cs).flatMap capitalize) := by
  rw [className, String.toList_ofList, classStyle_of_plain (fun h => hdot (mem_of_mem_trim h))
    (fun h => hdollar (mem_of_mem_trim h)), words_trim]

end Identifier

/-! ## The placeholders of a name -/

/-- Cells are joined by single spaces. -/
theorem Cells.toList_joined (cell : String) (rest : List String) :
    (joined (cell :: rest)).toList = cell.toList ++ rest.flatMap fun other => ' ' :: other.toList := by
  induction rest generalizing cell with
  | nil => exact (List.append_nil _).symm
  | cons other rest ih =>
    rw [joined, String.toList_append, String.toList_append, ih, List.flatMap_cons, List.append_assoc]
    · rfl
    · exact List.cons_ne_nil _ _

namespace NameTemplate

open Text

/-- The texts behind the first of some fragments, each with a space before it and a place behind. -/
def laterTokens (fragments : List String) : List Token :=
  fragments.flatMap fun fragment => fragmentTokens (" " ++ fragment ++ " ")

/-- A text without underscores is one literal, up to the placeholder that follows it. -/
theorem scan_fragment {cs : List Char} (h : '_' ∉ cs) (previous : Option Char)
    (pending : List Char) {rest : List Char} (hrest : ∀ c ∈ rest.head?, c = ' ') :
    scan previous pending (cs ++ ' ' :: '_' :: rest)
      = fragmentTokens (String.ofList (pending.reverse ++ cs ++ [' '])) ++ scan (some '_') [] rest := by
  induction cs generalizing previous pending with
  | nil =>
    have hplace : standsAlone (some ' ') rest.head? = true := by
      cases hhead : rest.head? with
      | none => rfl
      | some c => rw [hrest c hhead]; rfl
    rw [List.nil_append, scan, if_neg (fun hspace => absurd hspace.1 (by decide)), scan,
      if_pos ⟨rfl, hplace⟩, pendingLiteral, List.reverse_cons, List.append_nil]
    · rfl
    · exact List.cons_ne_nil _ _
  | cons c cs ih =>
    have hc : c ≠ '_' := fun heq => h (heq ▸ List.mem_cons_self)
    rw [List.cons_append, scan, if_neg (fun hunderscore => hc hunderscore.1),
      ih (fun hmem => h (List.mem_cons_of_mem _ hmem)), List.reverse_cons,
      List.append_assoc pending.reverse, List.singleton_append]

/-- Fragments behind the first, each with a placeholder behind it, are scanned as they stand in
cells of their own. -/
theorem scan_later {fragments : List String} (h : ∀ fragment ∈ fragments, '_' ∉ fragment.toList) :
    scan (some '_') [] (fragments.flatMap fun fragment => ' ' :: (fragment ++ " _").toList)
      = laterTokens fragments := by
  induction fragments with
  | nil => rfl
  | cons fragment fragments ih =>
    have hfragment : '_' ∉ ' ' :: fragment.toList := by
      rintro (_ | ⟨_, hmem⟩)
      exact h fragment List.mem_cons_self hmem
    have hspaces : ∀ c ∈ (fragments.flatMap fun other =>
        ' ' :: (other ++ " _").toList).head?, c = ' ' := by
      cases fragments with
      | nil => intro c hc; cases hc
      | cons other fragments => rintro c ⟨⟩; rfl
    have hscan := scan_fragment hfragment (some '_') [] hspaces
    rw [ih fun other hother => h other (List.mem_cons_of_mem _ hother)] at hscan
    have htext : ' ' :: (fragment ++ " _").toList = (' ' :: fragment.toList) ++ [' ', '_'] := by
      rw [String.toList_append]
      rfl
    have hliteral : String.ofList (([] : List Char).reverse ++ ' ' :: fragment.toList ++ [' '])
        = " " ++ fragment ++ " " := by
      rw [← String.toList_inj, String.toList_ofList, String.toList_append, String.toList_append]
      rfl
    rw [List.flatMap_cons, htext, List.append_assoc, laterTokens, List.flatMap_cons, ← hliteral]
    exact hscan

/-- Reading a name with a placeholder behind every fragment gives the fragments and the places. -/
theorem parse_joined {first : String} {later : List String} (hfirst : '_' ∉ first.toList)
    (hlater : ∀ fragment ∈ later, '_' ∉ fragment.toList) :
    parse (Cells.joined ((first :: later).map (· ++ " _")))
      = ⟨fragmentTokens (first ++ " ") ++ laterTokens later⟩ := by
  have hspaces : ∀ c ∈ (later.flatMap fun other =>
      ' ' :: (other ++ " _").toList).head?, c = ' ' := by
    cases later with
    | nil => intro c hc; cases hc
    | cons other later => rintro c ⟨⟩; rfl
  have hscan := scan_fragment hfirst none [] hspaces
  rw [scan_later hlater] at hscan
  have hliteral : String.ofList (([] : List Char).reverse ++ first.toList ++ [' ']) = first ++ " " := by
    rw [← String.toList_inj, String.toList_ofList, String.toList_append]
    rfl
  rw [parse, List.map_cons, Cells.toList_joined, List.flatMap_map, String.toList_append,
    List.append_assoc, ← hliteral]
  exact congrArg NameTemplate.mk hscan

/-- A text without underscores has no placeholder. -/
theorem scan_plain {cs : List Char} (h : '_' ∉ cs) (previous : Option Char) (pending : List Char) :
    scan previous pending cs = pendingLiteral (cs.reverse ++ pending) := by
  induction cs generalizing previous pending with
  | nil => rfl
  | cons c cs ih =>
    have hc : c ≠ '_' := fun heq => h (heq ▸ List.mem_cons_self)
    rw [scan, if_neg (fun hunderscore => hc hunderscore.1),
      ih (fun hmem => h (List.mem_cons_of_mem _ hmem)), List.reverse_cons, List.append_assoc]
    rfl

theorem isParameterized_of_plain {text : String} (h : '_' ∉ text.toList) :
    (parse text).isParameterized = false := by
  have hcount : (parse text).tokens.count .placeholder = 0 := by
    rw [parse, scan_plain h, List.append_nil]
    cases text.toList.reverse <;> rfl
  rw [isParameterized, placeholderCount, hcount]
  rfl

/-- A template that begins with a fragment in a cell of its own has a placeholder. -/
theorem isParameterized_fragment (text : String) (rest : List Token) :
    (NameTemplate.mk (fragmentTokens text ++ rest)).isParameterized = true :=
  decide_eq_true (List.count_pos_iff.mpr (List.mem_cons_of_mem _ List.mem_cons_self))

/-- The template of fragments in cells of their own, if the first begins with a character that is
not blank. -/
theorem alternating_eq {first : String} {c : Char} {cs : List Char} (hfirst : first.toList = c :: cs)
    (hc : isBlank c = false) (later : List String) :
    alternating (first :: later) = ⟨fragmentTokens (first ++ " ") ++ laterTokens later⟩ := by
  have hstart : trimStart first.toList = first.toList := by
    rw [hfirst, trimStart, List.dropWhile_cons_of_neg (by rw [hc]; exact Bool.false_ne_true)]
  have hblank : trim (first ++ " ").toList ≠ [] := by
    rw [String.toList_append, hfirst]
    exact trim_cons_ne_nil hc _
  rw [alternating, hstart, String.ofList_toList]
  exact congrArg NameTemplate.mk (if_neg hblank)

/-! ## The name without placeholders -/

/-- A fragment with a space behind it, and its placeholder, are written as the fragment and one
space. -/
theorem writeBlanks_fragment (written : List Char) (text : String) (rest : List Token) :
    writeBlanks written (fragmentTokens (text ++ " ") ++ rest)
      = writeBlanks (' ' :: (text.toList.reverse ++ written)) rest := by
  rw [fragmentTokens, List.cons_append, writeBlanks, String.toList_append, List.reverse_append]
  rfl

/-- The later fragments are written with spaces for their placeholders. -/
theorem writeBlanks_later (written : List Char) (fragments : List String) :
    writeBlanks written (laterTokens fragments)
      = (fragments.flatMap fun fragment => ' ' :: (fragment.toList ++ [' '])).reverse ++ written := by
  induction fragments generalizing written with
  | nil => rfl
  | cons fragment fragments ih =>
    rw [laterTokens, List.flatMap_cons, writeBlanks_fragment]
    refine (ih _).trans ?_
    simp only [List.flatMap_cons, List.reverse_append, List.reverse_cons, String.toList_append,
      List.append_assoc, List.cons_append, List.nil_append, String.reduceToList]

/-- The name without placeholders has two spaces between its fragments. -/
theorem unparameterized_eq (first : String) (later : List String) :
    (NameTemplate.mk (fragmentTokens (first ++ " ") ++ laterTokens later)).unparameterized
      = String.ofList (trim (first.toList ++ ' ' ::
          later.flatMap fun fragment => ' ' :: (fragment.toList ++ [' ']))) := by
  rw [unparameterized, writeBlanks_fragment, writeBlanks_later, List.append_nil,
    List.reverse_append, List.reverse_reverse, List.reverse_cons, List.reverse_reverse,
    List.append_assoc, List.singleton_append]

/-- However many spaces stand between fragments, the words are those of the fragments. -/
theorem words_spaced (first : List Char) (later : List String) :
    words (first ++ ' ' :: later.flatMap fun fragment => ' ' :: (fragment.toList ++ [' ']))
      = words (first ++ later.flatMap fun fragment => ' ' :: fragment.toList) := by
  induction later generalizing first with
  | nil =>
    rw [List.flatMap_nil, List.flatMap_nil, words_append_separator isWordChar_space, List.append_nil]
    exact List.append_nil _
  | cons fragment later ih =>
    rw [List.flatMap_cons, List.flatMap_cons, List.cons_append, List.cons_append,
      words_append_separator isWordChar_space, words_cons_separator isWordChar_space,
      words_append_separator isWordChar_space, List.append_assoc, List.singleton_append, ih]

/-- Both layouts give the scenario the same name. -/
theorem className_unparameterized (first : String) (later : List String)
    (h : ∀ fragment ∈ first :: later, ∀ c ∈ fragment.toList, c ≠ '$' ∧ c ≠ '.') :
    Identifier.className
        (NameTemplate.mk (fragmentTokens (first ++ " ") ++ laterTokens later)).unparameterized
      = Identifier.className (Text.trimmed (Cells.joined (first :: later))) := by
  have hplain {cs : List Char} {special : Char}
      (hspecial : special ≠ ' ' ∧ ∀ c, c ≠ '$' ∧ c ≠ '.' → special ≠ c)
      (hcs : ∀ c ∈ cs, c = ' ' ∨ ∃ fragment ∈ first :: later, c ∈ fragment.toList) :
      special ∉ cs := by
    intro hmem
    rcases hcs special hmem with hspace | ⟨fragment, hfragment, hchar⟩
    · exact hspecial.1 hspace
    · exact hspecial.2 special (h fragment hfragment special hchar) rfl
  have hdot : '.' ≠ ' ' ∧ ∀ c, c ≠ '$' ∧ c ≠ '.' → '.' ≠ c :=
    ⟨by decide, fun _ hc heq => hc.2 heq.symm⟩
  have hdollar : '$' ≠ ' ' ∧ ∀ c, c ≠ '$' ∧ c ≠ '.' → '$' ≠ c :=
    ⟨by decide, fun _ hc heq => hc.1 heq.symm⟩
  have hspaced : ∀ c ∈ first.toList ++ ' ' ::
      later.flatMap fun fragment => ' ' :: (fragment.toList ++ [' ']),
      c = ' ' ∨ ∃ fragment ∈ first :: later, c ∈ fragment.toList := by
    intro c hc
    simp only [List.mem_append, List.mem_cons, List.mem_flatMap, List.not_mem_nil, or_false] at hc
    grind
  have hjoined : ∀ c ∈ first.toList ++ later.flatMap fun fragment => ' ' :: fragment.toList,
      c = ' ' ∨ ∃ fragment ∈ first :: later, c ∈ fragment.toList := by
    intro c hc
    simp only [List.mem_append, List.mem_cons, List.mem_flatMap] at hc
    grind
  rw [unparameterized_eq, Text.trimmed, Cells.toList_joined,
    Identifier.className_of_plain (hplain hdot hspaced) (hplain hdollar hspaced),
    Identifier.className_of_plain (hplain hdot hjoined) (hplain hdollar hjoined), words_spaced]

end NameTemplate

/-! ## The arguments -/

namespace Cells

/-- Fragments and arguments in turn, each in a cell of its own. -/
def inTurn (slots : List (String × String)) : List String :=
  slots.flatMap fun slot => [slot.1, slot.2]

/-- The fragments of slots written in turn are their fragments. -/
theorem fragments_inTurn (slots : List (String × String)) :
    fragments (inTurn slots) = slots.map Prod.fst := by
  induction slots with
  | nil => rfl
  | cons slot slots ih => exact congrArg (List.cons slot.1) ih

/-- The arguments of slots written in turn are their arguments. -/
theorem arguments_inTurn (slots : List (String × String)) :
    arguments (inTurn slots) = slots.map Prod.snd := by
  induction slots with
  | nil => rfl
  | cons slot slots ih => exact congrArg (List.cons slot.2) ih

end Cells

namespace Header

/-- The texts one after another with commas between them. -/
def commaList (texts : List String) : String :=
  String.ofList ([','].intercalate (texts.map String.toList))

/-- Texts without commas of which the last is not blank are found again between the commas, and the
blank ones behind them are dropped. -/
theorem argumentTexts_commaList {texts blanks : List String} (hpieces : texts ++ blanks ≠ [])
    (hcommas : ∀ text ∈ texts ++ blanks, ',' ∉ text.toList)
    (hblanks : ∀ blank ∈ blanks, Text.trim blank.toList = [])
    (hlast : ∀ last ∈ texts.getLast?, Text.trim last.toList ≠ []) :
    argumentTexts (commaList (texts ++ blanks)) = texts := by
  have hsplit : (commaList (texts ++ blanks)).toList.splitOnP (· == ',')
      = (texts ++ blanks).map String.toList := by
    rw [commaList, String.toList_ofList]
    refine List.splitOn_intercalate ',' ?_ (by simpa using hpieces)
    intro piece hpiece
    obtain ⟨text, htext, rfl⟩ := List.mem_map.mp hpiece
    exact hcommas text htext
  have hdropped : ∀ piece ∈ (blanks.map String.toList).reverse,
      (Text.trim piece).isEmpty = true := by
    intro piece hpiece
    obtain ⟨blank, hblank, rfl⟩ := List.mem_map.mp (List.mem_reverse.mp hpiece)
    exact List.isEmpty_iff.mpr (hblanks blank hblank)
  have hkept : (texts.map String.toList).reverse.dropWhile
      (fun piece => (Text.trim piece).isEmpty) = (texts.map String.toList).reverse := by
    rcases List.eq_nil_or_concat' texts with rfl | ⟨front, last, rfl⟩
    · rfl
    · rw [List.map_append, List.reverse_append]
      refine List.dropWhile_cons_of_neg ?_
      rw [List.isEmpty_iff]
      exact hlast last List.getLast?_concat
  have hback : String.ofList ∘ String.toList = id := funext fun _ => String.ofList_toList
  rw [argumentTexts, hsplit, List.map_append, List.reverse_append,
    List.dropWhile_append_of_pos hdropped, hkept, List.reverse_reverse, List.map_map, hback,
    List.map_id]

/-! ## Headers in both layouts -/

/-- **Fragments of a name with the argument behind each, as both layouts can hold them**: the
fragments have no underscore and nothing that makes a name a qualified one, the first begins with a
character that is not blank, no argument has a comma, the last is not blank, and one is an input. -/
structure Slotted (slots : List (String × String)) : Prop where
  nonempty : slots ≠ []
  fragments : ∀ slot ∈ slots, ∀ c ∈ slot.1.toList, c ≠ '_' ∧ c ≠ '$' ∧ c ≠ '.'
  first : ∀ slot ∈ slots.head?,
    Text.trim slot.1.toList ≠ [] ∧ Text.trimStart slot.1.toList = slot.1.toList
  arguments : ∀ slot ∈ slots, ',' ∉ slot.2.toList
  last : ∀ slot ∈ slots.getLast?, Text.trim slot.2.toList ≠ []
  input : ∃ slot ∈ slots, ((Argument.ofText slot.2).input?).isSome

/-- The cells of a header in the parameterized layout: the name, in which a placeholder follows
every fragment, and the arguments. -/
def parameterizedCells (slots : List (String × String)) : List String :=
  [Cells.joined (slots.map fun slot => slot.1 ++ " _"), commaList (slots.map Prod.snd)]

/-- A text that trimming leaves something of and takes nothing from in front begins with a
character that is not blank. -/
private theorem exists_cons_of_trim {cs : List Char} (htrim : Text.trim cs ≠ [])
    (hstart : Text.trimStart cs = cs) : ∃ c rest, cs = c :: rest ∧ Text.isBlank c = false := by
  cases cs with
  | nil => exact absurd Text.trim_nil htrim
  | cons c rest => exact ⟨c, rest, rfl, Text.trimStart_eq_self_iff.mp hstart c rfl⟩

namespace Slotted

variable {slots later : List (String × String)} {slot : String × String}

theorem fragments_plain (h : Slotted slots) :
    ∀ fragment ∈ slots.map Prod.fst, ∀ c ∈ fragment.toList, c ≠ '_' ∧ c ≠ '$' ∧ c ≠ '.' := by
  intro fragment hfragment
  obtain ⟨slot, hslot, rfl⟩ := List.mem_map.mp hfragment
  exact h.fragments slot hslot

/-- The arguments are found again between the commas. -/
theorem argumentTexts_eq (h : Slotted slots) :
    argumentTexts (commaList (slots.map Prod.snd)) = slots.map Prod.snd := by
  have hcommas : ∀ text ∈ slots.map Prod.snd ++ [], ',' ∉ text.toList := by
    intro text htext
    rw [List.append_nil] at htext
    obtain ⟨slot, hslot, rfl⟩ := List.mem_map.mp htext
    exact h.arguments slot hslot
  have hlast : ∀ last ∈ (slots.map Prod.snd).getLast?, Text.trim last.toList ≠ [] := by
    intro last hlast
    obtain ⟨slot, hslot, rfl⟩ := Option.map_eq_some_iff.mp (List.getLast?_map.symm.trans hlast)
    exact h.last slot hslot
  have htexts := argumentTexts_commaList (by simpa using h.nonempty) hcommas nofun hlast
  rwa [List.append_nil] at htexts

/-- The name cell of the parameterized layout is the template of the fragments. -/
theorem parse_eq (h : Slotted (slot :: later)) :
    NameTemplate.parse (Cells.joined ((slot :: later).map fun slot => slot.1 ++ " _"))
      = ⟨NameTemplate.fragmentTokens (slot.1 ++ " ")
          ++ NameTemplate.laterTokens (later.map Prod.fst)⟩ := by
  have hplain : ∀ fragment ∈ slot.1 :: later.map Prod.fst, '_' ∉ fragment.toList :=
    fun fragment hfragment hmem => (h.fragments_plain fragment hfragment _ hmem).1 rfl
  have hparse := NameTemplate.parse_joined (hplain slot.1 List.mem_cons_self)
    fun fragment hfragment => hplain fragment (List.mem_cons_of_mem _ hfragment)
  rw [← hparse, List.map_cons, List.map_cons, List.map_map]
  rfl

/-- The header in the parameterized layout. -/
theorem ofCells?_parameterized (h : Slotted (slot :: later)) (label : String) :
    ofCells? (label :: parameterizedCells (slot :: later))
      = .ok (declare (Identifier.className (Cells.spelledName (Cells.inTurn (slot :: later)))) true
          [Cells.joined ((slot :: later).map fun slot => slot.1 ++ " _")]
          ((slot :: later).map Prod.snd)) := by
  have hname := NameTemplate.className_unparameterized slot.1 (later.map Prod.fst)
    fun fragment hfragment c hc => (h.fragments_plain fragment hfragment c hc).2
  rw [parameterizedCells, ofCells?, h.parse_eq, if_pos (NameTemplate.isParameterized_fragment _ _),
    ofParameterized, h.parse_eq, hname, List.head?_cons, Option.map_some, h.argumentTexts_eq,
    Cells.spelledName, Cells.fragments_inTurn]
  rfl

/-- The header in the alternating layout. -/
theorem ofCells?_inTurn (h : Slotted (slot :: later)) (label : String) :
    ofCells? (label :: Cells.inTurn (slot :: later))
      = .ok (declare (Identifier.className (Cells.spelledName (Cells.inTurn (slot :: later)))) false
          ((slot :: later).map Prod.fst) ((slot :: later).map Prod.snd)) := by
  have hplain : '_' ∉ slot.1.toList :=
    fun hmem => (h.fragments slot List.mem_cons_self _ hmem).1 rfl
  have hnot : ¬ (NameTemplate.parse slot.1).isParameterized = true := by
    rw [NameTemplate.isParameterized_of_plain hplain]
    exact Bool.false_ne_true
  rw [Cells.inTurn, List.flatMap_cons, List.cons_append, ofCells?, if_neg hnot, ofAlternating]
  change Except.ok (declare _ _ (Cells.fragments (Cells.inTurn (slot :: later)))
    (Cells.arguments (Cells.inTurn (slot :: later)))) = _
  rw [Cells.fragments_inTurn, Cells.arguments_inTurn]

theorem inputs_ne_nil (h : Slotted slots) :
    ((slots.map Prod.snd).map Argument.ofText).filterMap Argument.input? ≠ [] := by
  obtain ⟨slot, hslot, hinput⟩ := h.input
  obtain ⟨name, hname⟩ := Option.isSome_iff_exists.mp hinput
  refine List.ne_nil_of_mem (List.mem_filterMap.mpr ⟨_, ?_, hname⟩)
  exact List.mem_map_of_mem (List.mem_map_of_mem hslot)

end Slotted

/-- **Both layouts declare the same scenario.** From the same fragments and arguments a table has a
header in either layout, and the two have the same name, the same inputs in the same order and the
same outputs. They have the same template, so every phrase that fits one fits the other and gives it
the same arguments. -/
theorem ofRows?_layouts {slots : List (String × String)} (h : Slotted slots) (label label' : String)
    (body body' : List (List String)) :
    ∃ header header' template,
      ofRows? ((label :: parameterizedCells slots) :: body) = .ok header
      ∧ ofRows? ((label' :: Cells.inTurn slots) :: body') = .ok header'
      ∧ header.name = header'.name ∧ header.inputs = header'.inputs
      ∧ header.outputs = header'.outputs
      ∧ header.template? = some template ∧ header'.template? = some template
      ∧ ∀ phrase, header.captures? phrase = header'.captures? phrase := by
  obtain ⟨slot, later, rfl⟩ := List.exists_cons_of_ne_nil h.nonempty
  obtain ⟨c, cs, hfirst, hc⟩ := exists_cons_of_trim (h.first slot rfl).1 (h.first slot rfl).2
  let parameterized := declare
    (Identifier.className (Cells.spelledName (Cells.inTurn (slot :: later)))) true
    [Cells.joined ((slot :: later).map fun slot => slot.1 ++ " _")] ((slot :: later).map Prod.snd)
  let alternating := declare
    (Identifier.className (Cells.spelledName (Cells.inTurn (slot :: later)))) false
    ((slot :: later).map Prod.fst) ((slot :: later).map Prod.snd)
  have hparameterized : parameterized.template? = some ⟨NameTemplate.fragmentTokens (slot.1 ++ " ")
      ++ NameTemplate.laterTokens (later.map Prod.fst)⟩ := congrArg some h.parse_eq
  have halternating : alternating.template? = some ⟨NameTemplate.fragmentTokens (slot.1 ++ " ")
      ++ NameTemplate.laterTokens (later.map Prod.fst)⟩ := by
    have hinputs : ¬ alternating.inputs.isEmpty = true := by
      rw [List.isEmpty_iff]
      exact h.inputs_ne_nil
    rw [template?, if_neg (show ¬ alternating.parameterized = true from Bool.false_ne_true),
      if_neg hinputs]
    exact congrArg some (NameTemplate.alternating_eq hfirst hc (later.map Prod.fst))
  refine ⟨parameterized, alternating, _, h.ofCells?_parameterized label, h.ofCells?_inTurn label',
    rfl, rfl, rfl, hparameterized, halternating, fun phrase => ?_⟩
  rw [captures?, hparameterized, captures?, halternating]

/-- A fragment with nothing but blanks in it, an argument that is declared twice and one that is
handed out make no difference. -/
theorem ofRows?_layouts_price : ∃ header header' template,
    ofRows? [["scenario", "order _   _ for _", "item,price?, item "]] = .ok header
      ∧ ofRows? [["scenario", "order", "item", " ", "price?", "for", " item "]] = .ok header'
      ∧ header.inputs = ["item", "item"] ∧ header'.inputs = ["item", "item"]
      ∧ header.name = header'.name ∧ header.outputs = header'.outputs
      ∧ header.template? = some template ∧ header'.template? = some template
      ∧ ∀ phrase, header.captures? phrase = header'.captures? phrase := by
  have hslotted : Slotted [("order", "item"), (" ", "price?"), ("for", " item ")] :=
    ⟨List.cons_ne_nil _ _, by simp, by decide +kernel, by decide +kernel, by decide +kernel,
      by decide +kernel⟩
  obtain ⟨header, header', template, hheader, hheader', hname, hinputs, houtputs, htemplate,
    htemplate', hcaptures⟩ := ofRows?_layouts hslotted "scenario" "scenario" [] []
  have hdeclared : (ofRows? [["scenario", "order", "item", " ", "price?", "for", " item "]]).map
      (·.inputs) = .ok ["item", "item"] := by decide +kernel
  have hinputs' : header'.inputs = ["item", "item"] := by
    have hmapped := congrArg (Except.map Header.inputs) hheader'
    exact Except.ok.inj (hmapped.symm.trans hdeclared)
  exact ⟨header, header', template, hheader, hheader', hinputs.trans hinputs', hinputs', hname,
    houtputs, htemplate, htemplate', hcaptures⟩

end Header

end ScenarioTables
