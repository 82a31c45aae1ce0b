import ScenarioTables.Header
import ScenarioTables.Proofs.Binding
import ScenarioTables.Proofs.ReplacementOrder
import ScenarioTables.Table

/-!
# Values in a body

What expanding does to a cell is laid down by the names alone: the marks of the names, taken in the
order of replacement, cut the cell into characters of its own and places of values (`pieces`). The
values fill these places, and no value is looked into, as long as no mark arises in part from a value
when the turn of its name comes (`Untouched`); that values stand apart from the marks replaced later
is enough for this (`Apart`).

Without such a condition there is no sequence of pieces that serves all values
(`no_pieces_for_all_values`): a mark is replaced in the text that the names before it have left,
values included.
-/

set_option autoImplicit false

namespace ScenarioTables.Expansion

/-! ## Replacing a mark in a text -/

section Replacing

variable {tail new text rest : List Char}

/-- Where the mark stands its value comes in, and the text behind it is searched on. -/
theorem replaceAll_mark (tail new rest : List Char) :
    Text.replaceAll '@' tail new ('@' :: tail ++ rest) = new ++ Text.replaceAll '@' tail new rest := by
  have hprefix : tail.isPrefixOf (tail ++ rest) = true :=
    List.isPrefixOf_iff_prefix.mpr (List.prefix_append tail rest)
  rw [Text.replaceAll, List.cons_append, Text.replaceAfter, if_pos ⟨rfl, hprefix⟩,
    Text.replaceAfter_eq_drop, List.drop_left]

theorem replaceAll_cons {c : Char} (h : ¬ '@' :: tail <+: c :: rest) :
    Text.replaceAll '@' tail new (c :: rest) = c :: Text.replaceAll '@' tail new rest := by
  have hnot : ¬ (c = '@' ∧ tail.isPrefixOf rest = true) := by
    rintro ⟨rfl, hprefix⟩
    exact h (List.cons_prefix_cons.mpr ⟨rfl, List.isPrefixOf_iff_prefix.mp hprefix⟩)
  rw [Text.replaceAll, Text.replaceAfter, if_neg hnot]
  rfl

/-- A text in which no mark begins stays, and the mark is replaced behind it. -/
theorem replaceAll_append (h : ∀ front last, text = front ++ last → last ≠ [] →
      ¬ '@' :: tail <+: last ++ rest) :
    Text.replaceAll '@' tail new (text ++ rest) = text ++ Text.replaceAll '@' tail new rest := by
  induction text with
  | nil => rfl
  | cons c text ih =>
    have hhere : ¬ '@' :: tail <+: c :: (text ++ rest) := h [] (c :: text) rfl (List.cons_ne_nil c text)
    rw [List.cons_append, replaceAll_cons hhere, ih]
    · rfl
    · intro front last htext hlast
      exact h (c :: front) last (congrArg (List.cons c) htext) hlast

end Replacing

/-! ## Pieces -/

/-- A mark of a name in a body, in braces or bare. -/
structure Mark where
  /-- The name. -/
  name : String
  /-- Whether the name stands in braces. -/
  braced : Bool
  deriving DecidableEq, Repr

/-- A mark without the sign that it begins with. -/
def Mark.tail : Mark → List Char
  | ⟨name, true⟩ => '\x7b' :: name.toList ++ ['\x7d']
  | ⟨name, false⟩ => name.toList

/-- The text of a mark. -/
def Mark.text (mark : Mark) : List Char :=
  '@' :: mark.tail

/-- The marks of some names in the order of replacement: each name first in braces, then bare. -/
def marksOf (names : NameSet) : List Mark :=
  (replacementOrder names).flatMap fun name => [⟨name, true⟩, ⟨name, false⟩]

/-- A piece of a cell. -/
inductive Piece where
  /-- A character of the cell itself. -/
  | char (c : Char)
  /-- The place of a mark, which takes the value of the mark's name. -/
  | place (mark : Mark)
  deriving DecidableEq, Repr

/-- A text that is all of the cell itself. -/
def literal (text : List Char) : List Piece :=
  text.map .char

/-- The text of a piece when names have the given values. -/
def Piece.fill (valueOf : String → String) : Piece → List Char
  | .char c => [c]
  | .place mark => (valueOf mark.name).toList

/-- The text of some pieces when names have the given values. -/
def fill (valueOf : String → String) (pieces : List Piece) : List Char :=
  pieces.flatMap (·.fill valueOf)

/-- The text of the cell from which pieces were made: each place is its mark again. -/
def source : List Piece → List Char
  | [] => []
  | .char c :: rest => c :: source rest
  | .place mark :: rest => mark.text ++ source rest

/-- Puts a place for each occurrence of a mark in the cell itself, behind the next `skip` pieces. -/
def placedAfter (mark : Mark) : Nat → List Piece → List Piece
  | _, [] => []
  | skip + 1, _ :: rest => placedAfter mark skip rest
  | 0, piece :: rest =>
    if (literal mark.text).isPrefixOf (piece :: rest) then
      .place mark :: placedAfter mark mark.tail.length rest
    else
      piece :: placedAfter mark 0 rest

/-- Puts a place for each occurrence of a mark in the cell itself. -/
def placed (pieces : List Piece) (mark : Mark) : List Piece :=
  placedAfter mark 0 pieces

/-- The pieces of a cell when the given names are bound. -/
def pieces (names : NameSet) (cell : List Char) : List Piece :=
  (marksOf names).foldl placed (literal cell)

theorem fill_cons (valueOf : String → String) (piece : Piece) (rest : List Piece) :
    fill valueOf (piece :: rest) = piece.fill valueOf ++ fill valueOf rest :=
  List.flatMap_cons

theorem fill_append (valueOf : String → String) (first last : List Piece) :
    fill valueOf (first ++ last) = fill valueOf first ++ fill valueOf last :=
  List.flatMap_append

theorem fill_literal (valueOf : String → String) (text : List Char) :
    fill valueOf (literal text) = text := by
  rw [fill, literal, List.flatMap_map]
  exact List.flatMap_singleton' text

theorem place_not_mem_literal (mark : Mark) (text : List Char) : .place mark ∉ literal text := by
  intro hmem
  obtain ⟨_, _, heq⟩ := List.mem_map.mp hmem
  cases heq

theorem placedAfter_eq_drop (mark : Mark) (skip : Nat) (pieces : List Piece) :
    placedAfter mark skip pieces = placed (pieces.drop skip) mark := by
  induction pieces generalizing skip with
  | nil => cases skip <;> rfl
  | cons piece pieces ih =>
    cases skip with
    | zero => rfl
    | succ skip => exact ih skip

/-- Where the mark stands in the cell itself it becomes a place. -/
theorem placed_mark (mark : Mark) (rest : List Piece) :
    placed (literal mark.text ++ rest) mark = .place mark :: placed rest mark := by
  have hprefix : (literal mark.text).isPrefixOf (literal mark.text ++ rest) = true :=
    List.isPrefixOf_iff_prefix.mpr (List.prefix_append _ rest)
  have hlength : mark.tail.length = (literal mark.tail).length := (List.length_map _).symm
  have htext : literal mark.text ++ rest = .char '@' :: (literal mark.tail ++ rest) := rfl
  rw [htext] at hprefix ⊢
  rw [placed, placedAfter, if_pos hprefix, placedAfter_eq_drop, hlength, List.drop_left]

theorem placed_cons {mark : Mark} {piece : Piece} {rest : List Piece}
    (h : ¬ literal mark.text <+: piece :: rest) :
    placed (piece :: rest) mark = piece :: placed rest mark := by
  rw [placed, placedAfter, if_neg (mt List.isPrefixOf_iff_prefix.mp h)]
  rfl

/-- Going through pieces in search of a mark: the mark is found, or the first piece is passed. -/
theorem Mark.scan {motive : List Piece → Prop} (mark : Mark) (nil : motive [])
    (found : ∀ rest, motive rest → motive (literal mark.text ++ rest))
    (passed : ∀ piece rest, ¬ literal mark.text <+: piece :: rest → motive rest →
      motive (piece :: rest)) (pieces : List Piece) : motive pieces := by
  induction hlength : pieces.length using Nat.strongRecOn generalizing pieces with
  | ind length ih =>
    cases pieces with
    | nil => exact nil
    | cons piece rest =>
      by_cases hprefix : literal mark.text <+: piece :: rest
      · obtain ⟨behind, hbehind⟩ := hprefix
        have hshorter : behind.length < length := by
          rw [← hlength, ← hbehind, List.length_append]
          exact Nat.lt_add_of_pos_left (Nat.succ_pos _)
        rw [← hbehind]
        exact found behind (ih behind.length hshorter behind rfl)
      · refine passed piece rest hprefix (ih rest.length ?_ rest rfl)
        rw [← hlength]
        exact Nat.lt_succ_self _

/-! ## Marks that arise nowhere else -/

/-- Every occurrence of a mark in the text of some pieces is an occurrence in the cell itself. -/
def Clear (valueOf : String → String) (pieces : List Piece) (mark : Mark) : Prop :=
  ∀ before behind, fill valueOf pieces = before ++ mark.text ++ behind →
    ∃ first last, pieces = first ++ literal mark.text ++ last
      ∧ fill valueOf first = before ∧ fill valueOf last = behind

/-- Some marks are replaced one after another, and each is clear when its turn comes. -/
def Untouched (valueOf : String → String) : List Mark → List Piece → Prop
  | [], _ => True
  | mark :: rest, pieces =>
    Clear valueOf pieces mark ∧ Untouched valueOf rest (placed pieces mark)

variable {valueOf : String → String} {mark : Mark}

/-- What is clear is clear behind its first piece. -/
theorem Clear.behind_piece {piece : Piece} {rest : List Piece}
    (h : Clear valueOf (piece :: rest) mark) : Clear valueOf rest mark := by
  intro before behind hfill
  obtain ⟨first, last, hpieces, hfirst, hlast⟩ := h (piece.fill valueOf ++ before) behind (by
    rw [fill_cons, hfill]
    simp only [List.append_assoc])
  cases first with
  | nil =>
    obtain ⟨rfl, -⟩ := List.cons.inj hpieces
    exact absurd hfirst (List.cons_ne_nil _ _).symm
  | cons other first =>
    obtain ⟨rfl, rfl⟩ := List.cons.inj hpieces
    exact ⟨first, last, rfl, List.append_cancel_left hfirst, hlast⟩

/-- A sequence that is clear of a mark is so from every piece on. -/
theorem Clear.behind {first rest : List Piece} (h : Clear valueOf (first ++ rest) mark) :
    Clear valueOf rest mark := by
  induction first with
  | nil => exact h
  | cons piece first ih => exact ih h.behind_piece

/-- A piece that begins no mark of the cell begins no mark at all. -/
theorem Clear.not_prefix {piece : Piece} {rest : List Piece}
    (h : Clear valueOf (piece :: rest) mark) (hpiece : ¬ literal mark.text <+: piece :: rest) :
    ∀ front last, piece.fill valueOf = front ++ last → last ≠ [] →
      ¬ mark.text <+: last ++ fill valueOf rest := by
  rintro front last hsplit hlast ⟨behind, hbehind⟩
  obtain ⟨first, others, hpieces, hfirst, -⟩ := h front behind (by
    rw [fill_cons, hsplit, List.append_assoc, ← hbehind, List.append_assoc])
  cases first with
  | nil => exact hpiece ⟨others, hpieces.symm⟩
  | cons other first =>
    obtain ⟨rfl, -⟩ := List.cons.inj hpieces
    have hlength := congrArg List.length hfirst
    rw [fill_cons, hsplit, List.length_append, List.length_append] at hlength
    have := List.length_pos_iff.mpr hlast
    omega

/-- Replacing a mark that is clear fills its places with the value of its name. -/
theorem replaceAll_fill {pieces : List Piece} (h : Clear valueOf pieces mark) :
    Text.replaceAll '@' mark.tail (valueOf mark.name).toList (fill valueOf pieces)
      = fill valueOf (placed pieces mark) := by
  induction pieces using mark.scan with
  | nil => rfl
  | found rest ih =>
    rw [fill_append, fill_literal, placed_mark]
    exact (replaceAll_mark _ _ _).trans (congrArg _ (ih h.behind))
  | passed piece rest hpiece ih =>
    rw [placed_cons hpiece]
    exact (replaceAll_append (h.not_prefix hpiece)).trans (congrArg _ (ih h.behind_piece))

/-- Replacing marks that are untouched fills the places of the cell. -/
theorem foldl_replaceAll_fill {marks : List Mark} {pieces : List Piece}
    (h : Untouched valueOf marks pieces) :
    marks.foldl (fun text mark =>
        Text.replaceAll '@' mark.tail (valueOf mark.name).toList text) (fill valueOf pieces)
      = fill valueOf (marks.foldl placed pieces) := by
  induction marks generalizing pieces with
  | nil => rfl
  | cons mark marks ih =>
    rw [List.foldl_cons, replaceAll_fill h.1]
    exact ih h.2

/-- Names are replaced mark by mark: each one in braces, then bare. -/
theorem substituteChars_eq (names : List String) (valueOf : String → String) (text : List Char) :
    substituteChars (names.map fun name => (name, valueOf name)) text
      = (names.flatMap fun name => [(⟨name, true⟩ : Mark), ⟨name, false⟩]).foldl
          (fun text mark => Text.replaceAll '@' mark.tail (valueOf mark.name).toList text) text := by
  induction names generalizing text with
  | nil => rfl
  | cons name names ih => exact ih _

/-- A cell whose marks are untouched is expanded by filling its pieces. -/
theorem substitute_eq_fill {binding : Binding} {cell : String}
    (h : Untouched binding.valueOf (marksOf binding.names) (literal cell.toList)) :
    substitute (pairsOf binding) cell
      = String.ofList (fill binding.valueOf (pieces binding.names cell.toList)) := by
  have hfilled := foldl_replaceAll_fill h
  rw [fill_literal] at hfilled
  rw [substitute, pairsOf_eq, substituteChars_eq]
  exact congrArg String.ofList hfilled

/-! ## Values that stand apart -/

/-- Two texts of which neither begins with the other: whatever stands behind them, they differ. -/
def Departs (text other : List Char) : Prop :=
  ¬ text <+: other ∧ ¬ other <+: text

/-- The value at the places of a mark stands apart from a mark that is replaced later: no such mark
begins in the value, and none that the cell begins in front of the place runs into the value. -/
structure Apart (valueOf : String → String) (cell : List Char) (mark later : Mark) : Prop where
  inside : ∀ front last, cell = front ++ mark.text ++ last →
    ∀ earlier rest, (valueOf mark.name).toList = earlier ++ '@' :: rest → Departs later.tail rest
  across : ∀ front between last, cell = front ++ '@' :: between ++ mark.text ++ last →
    later.tail <+: between ∨ Departs later.tail (between ++ (valueOf mark.name).toList)

/-- All ways to cut a text in two. -/
def cuts : List Char → List (List Char × List Char)
  | [] => [([], [])]
  | c :: text => ([], c :: text) :: (cuts text).map fun cut => (c :: cut.1, cut.2)

/-- The cuts of a text are all ways to write it as two texts. -/
theorem mem_cuts {text front last : List Char} : (front, last) ∈ cuts text ↔ text = front ++ last := by
  induction text generalizing front with
  | nil => simp only [cuts, List.mem_singleton, Prod.mk.injEq, List.nil_eq_append_iff]
  | cons c text ih =>
    cases front with
    | nil => simp [cuts, eq_comm]
    | cons d front =>
      simp only [cuts, List.mem_cons, Prod.mk.injEq, reduceCtorEq, false_and, false_or, List.mem_map,
        Prod.exists, List.cons.injEq, List.cons_append]
      constructor
      · rintro ⟨inner, last, hcut, ⟨rfl, rfl⟩, rfl⟩
        exact ⟨rfl, ih.mp hcut⟩
      · rintro ⟨rfl, htext⟩
        exact ⟨front, last, ih.mpr htext, ⟨rfl, rfl⟩, rfl⟩

instance (text other : List Char) : Decidable (Departs text other) :=
  inferInstanceAs (Decidable (_ ∧ _))

/-- Standing apart is a matter of the finitely many cuts of the cell and of the value. -/
theorem apart_iff {cell : List Char} {later : Mark} : Apart valueOf cell mark later ↔
    (∀ outer ∈ cuts cell, mark.text <+: outer.2 →
      ∀ inner ∈ cuts (valueOf mark.name).toList, inner.2.head? = some '@' →
        Departs later.tail inner.2.tail)
    ∧ ∀ outer ∈ cuts cell, outer.2.head? = some '@' →
      ∀ inner ∈ cuts outer.2.tail, mark.text <+: inner.2 →
        later.tail <+: inner.1 ∨ Departs later.tail (inner.1 ++ (valueOf mark.name).toList) := by
  constructor
  · intro h
    constructor
    · rintro ⟨front, rest⟩ houter ⟨last, rfl⟩ ⟨earlier, inner⟩ hinner hhead
      obtain ⟨tail, rfl⟩ := List.head?_eq_some_iff.mp hhead
      refine h.inside front last ?_ earlier tail (mem_cuts.mp hinner)
      rw [mem_cuts.mp houter, List.append_assoc]
    · rintro ⟨front, rest⟩ houter hhead ⟨between, inner⟩ hinner ⟨last, rfl⟩
      obtain ⟨tail, rfl⟩ := List.head?_eq_some_iff.mp hhead
      refine h.across front between last ?_
      rw [mem_cuts.mp houter, show tail = between ++ (mark.text ++ last) from mem_cuts.mp hinner]
      simp only [List.append_assoc, List.cons_append]
  · rintro ⟨hinside, hacross⟩
    constructor
    · rintro front last rfl earlier rest hvalue
      exact hinside (front, mark.text ++ last) (mem_cuts.mpr (List.append_assoc ..))
        (List.prefix_append _ _) (earlier, '@' :: rest) (mem_cuts.mpr hvalue) rfl
    · rintro front between last rfl
      refine hacross (front, '@' :: (between ++ (mark.text ++ last))) (mem_cuts.mpr ?_) rfl
        (between, mark.text ++ last) (mem_cuts.mpr rfl) (List.prefix_append _ _)
      simp only [List.append_assoc, List.cons_append]

instance (valueOf : String → String) (cell : List Char) (mark later : Mark) :
    Decidable (Apart valueOf cell mark later) :=
  decidable_of_iff' _ apart_iff

theorem source_append (first last : List Piece) :
    source (first ++ last) = source first ++ source last := by
  induction first with
  | nil => rfl
  | cons piece first ih =>
    cases piece with
    | char c => exact congrArg (List.cons c) ih
    | place mark => rw [List.cons_append, source, ih, source, List.append_assoc]

theorem source_literal (text : List Char) : source (literal text) = text := by
  induction text with
  | nil => rfl
  | cons c text ih => exact congrArg (List.cons c) ih

/-- Places stand for the text of the cell. -/
theorem source_placed (mark : Mark) (pieces : List Piece) :
    source (placed pieces mark) = source pieces := by
  induction pieces using mark.scan with
  | nil => rfl
  | found rest ih => rw [placed_mark, source_append, source_literal, source, ih]
  | passed piece rest hpiece ih =>
    rw [placed_cons hpiece]
    cases piece with
    | char c => exact congrArg (List.cons c) ih
    | place other => rw [source, source, ih]

/-- A place that placing finds is one of its mark, or it was there before. -/
theorem mem_placed {mark other : Mark} {pieces : List Piece}
    (h : Piece.place other ∈ placed pieces mark) : other = mark ∨ Piece.place other ∈ pieces := by
  induction pieces using mark.scan with
  | nil => cases h
  | found rest ih =>
    rw [placed_mark] at h
    rcases List.mem_cons.mp h with heq | hrest
    · exact Or.inl (Piece.place.inj heq)
    · exact (ih hrest).imp_right (List.mem_append_right _)
  | passed piece rest hpiece ih =>
    rw [placed_cons hpiece] at h
    rcases List.mem_cons.mp h with heq | hrest
    · exact Or.inr (heq ▸ List.mem_cons_self)
    · exact (ih hrest).imp_right (List.mem_cons_of_mem _)

/-- A character of a filled text is one of the cell or lies in a value. -/
theorem fill_eq_append_cons {pieces : List Piece} {before rest : List Char} {c : Char}
    (h : fill valueOf pieces = before ++ c :: rest) :
    (∃ first last, pieces = first ++ .char c :: last
      ∧ fill valueOf first = before ∧ fill valueOf last = rest)
    ∨ ∃ first mark last earlier later, pieces = first ++ .place mark :: last
      ∧ (valueOf mark.name).toList = earlier ++ c :: later ∧ rest = later ++ fill valueOf last := by
  induction pieces generalizing before with
  | nil => exact absurd h (List.append_ne_nil_of_right_ne_nil _ (List.cons_ne_nil c rest)).symm
  | cons piece pieces ih =>
    have hbehind {inner : List Char} (hinner : fill valueOf pieces = inner ++ c :: rest)
        (hbefore : piece.fill valueOf ++ inner = before) :
        (∃ first last, piece :: pieces = first ++ .char c :: last
          ∧ fill valueOf first = before ∧ fill valueOf last = rest)
        ∨ ∃ first mark last earlier later, piece :: pieces = first ++ .place mark :: last
          ∧ (valueOf mark.name).toList = earlier ++ c :: later
          ∧ rest = later ++ fill valueOf last := by
      rcases ih hinner with ⟨first, last, rfl, hfirst, hlast⟩ |
        ⟨first, mark, last, earlier, later, rfl, hvalue, hrest⟩
      · exact Or.inl ⟨piece :: first, last, rfl, (congrArg _ hfirst).trans hbefore, hlast⟩
      · exact Or.inr ⟨piece :: first, mark, last, earlier, later, rfl, hvalue, hrest⟩
    rw [fill_cons] at h
    -- The character lies behind the first piece or in it.
    rcases List.append_eq_append_iff.mp h with ⟨inner, hbefore, hinner⟩ | ⟨inner, hpiece, hinner⟩
    · exact hbehind hinner hbefore.symm
    · cases inner with
      | nil =>
        rw [List.append_nil] at hpiece
        exact @hbehind [] hinner.symm ((List.append_nil _).trans hpiece)
      | cons other inner =>
        obtain ⟨rfl, rfl⟩ := List.cons.inj hinner
        cases piece with
        | place mark => exact Or.inr ⟨[], mark, pieces, before, inner, rfl, hpiece, rfl⟩
        | char other =>
          cases before with
          | nil =>
            obtain ⟨rfl, rfl⟩ := List.cons.inj (show [other] = _ :: inner from hpiece)
            exact Or.inl ⟨[], pieces, rfl, rfl, rfl⟩
          | cons first before =>
            have hlength := congrArg List.length hpiece
            simp only [Piece.fill, List.length_append, List.length_cons, List.length_nil] at hlength
            omega

/-- Pieces begin with characters of the cell up to the first place. -/
theorem exists_run (pieces : List Piece) : ∃ run others, pieces = literal run ++ others
    ∧ ∀ piece ∈ others.head?, ∃ mark, piece = .place mark := by
  induction pieces with
  | nil => exact ⟨[], [], rfl, fun _ hpiece => nomatch hpiece⟩
  | cons piece pieces ih =>
    cases piece with
    | place mark =>
      refine ⟨[], .place mark :: pieces, rfl, fun piece hpiece => ⟨mark, ?_⟩⟩
      exact (Option.some.inj hpiece).symm
    | char c =>
      obtain ⟨run, others, hpieces, hothers⟩ := ih
      exact ⟨c :: run, others, congrArg (List.cons _) hpieces, hothers⟩

/-- A mark is clear if the values that stand already stand apart from it. -/
theorem clear_of_apart {cell : List Char} {pieces : List Piece} {later : Mark}
    (hsource : source pieces = cell)
    (hapart : ∀ mark, .place mark ∈ pieces → Apart valueOf cell mark later) :
    Clear valueOf pieces later := by
  intro before behind hfill
  have hcomparable {text rest : List Char} (h : later.tail ++ behind = text ++ rest) :
      ¬ Departs later.tail text := by
    rintro ⟨hneither, hnor⟩
    rcases List.prefix_or_prefix_of_prefix (h ▸ List.prefix_append _ _)
      (List.prefix_append text rest) with hprefix | hprefix
    · exact hneither hprefix
    · exact hnor hprefix
  rw [Mark.text, List.append_assoc, List.cons_append] at hfill
  -- The sign of the occurrence is a character of the cell, or it lies in a value.
  rcases fill_eq_append_cons hfill with ⟨first, last, rfl, hfirst, hlast⟩ |
    ⟨first, mark, last, earlier, rest, rfl, hvalue, hrest⟩
  · obtain ⟨run, others, rfl, hothers⟩ := exists_run last
    rw [fill_append, fill_literal] at hlast
    -- In the cell, the rest of the mark must end before the next place.
    have hrun : later.tail <+: run := by
      cases others with
      | nil =>
        rw [show fill valueOf [] = [] from rfl, List.append_nil] at hlast
        exact hlast ▸ List.prefix_append _ _
      | cons piece others =>
        obtain ⟨mark, rfl⟩ := hothers piece rfl
        have hcell : cell = source first ++ '@' :: run ++ mark.text ++ source others := by
          rw [← hsource, source_append, source, source_append, source_literal, source]
          simp only [List.append_assoc, List.cons_append]
        have hmem : Piece.place mark ∈ first ++ .char '@' :: (literal run ++ .place mark :: others) := by
          simp only [List.mem_append, List.mem_cons, true_or, or_true]
        refine ((hapart mark hmem).across _ _ _ hcell).resolve_right ?_
        apply hcomparable
        rw [← hlast, List.append_assoc]
        rfl
    obtain ⟨rest, rfl⟩ := hrun
    refine ⟨first, literal rest ++ others, ?_, hfirst, ?_⟩
    · simp only [Mark.text, literal, List.map_append, List.map_cons, List.append_assoc,
        List.cons_append]
    · rw [fill_append, fill_literal]
      rw [List.append_assoc] at hlast
      exact List.append_cancel_left hlast
  · have hcell : cell = source first ++ mark.text ++ source last := by
      rw [← hsource, source_append, source, List.append_assoc]
    have hmem : Piece.place mark ∈ first ++ .place mark :: last :=
      List.mem_append_right _ List.mem_cons_self
    exact absurd ((hapart mark hmem).inside _ _ hcell _ _ hvalue) (hcomparable hrest)

/-- Marks are untouched if each value stands apart from the marks replaced later. -/
theorem untouched_of_apart {cell : List Char} {marks : List Mark} {pieces : List Piece}
    (hsource : source pieces = cell)
    (hplaces : ∀ mark, .place mark ∈ pieces → ∀ later ∈ marks, Apart valueOf cell mark later)
    (hmarks : marks.Pairwise (Apart valueOf cell)) : Untouched valueOf marks pieces := by
  induction marks generalizing pieces with
  | nil => trivial
  | cons next marks ih =>
    obtain ⟨hnext, hlater⟩ := List.pairwise_cons.mp hmarks
    refine ⟨clear_of_apart hsource fun mark hmark => hplaces mark hmark next List.mem_cons_self, ?_⟩
    refine ih ((source_placed next pieces).trans hsource) ?_ hlater
    intro mark hmark later hmem
    rcases mem_placed hmark with rfl | hbefore
    · exact hnext later hmem
    · exact hplaces mark hbefore later (List.mem_cons_of_mem _ hmem)

/-- A piece of a cell refers to bound names only. -/
theorem name_mem_of_place {names : NameSet} {cell : List Char} {mark : Mark}
    (h : Piece.place mark ∈ pieces names cell) : mark.name ∈ names := by
  have hfold : ∀ (marks : List Mark) (before : List Piece),
      Piece.place mark ∈ marks.foldl placed before → mark ∈ marks ∨ Piece.place mark ∈ before := by
    intro marks
    induction marks with
    | nil => exact fun before => Or.inr
    | cons next marks ih =>
      intro before hmem
      rcases ih _ hmem with hmarks | hplaced
      · exact Or.inl (List.mem_cons_of_mem _ hmarks)
      · rcases mem_placed hplaced with rfl | hbefore
        · exact Or.inl List.mem_cons_self
        · exact Or.inr hbefore
  rcases hfold _ _ h with hmark | hliteral
  · obtain ⟨name, hname, hmem⟩ := List.mem_flatMap.mp hmark
    have hsame : mark.name = name := by
      simp only [List.mem_cons, List.not_mem_nil, or_false] at hmem
      rcases hmem with rfl | rfl <;> rfl
    exact hsame ▸ (mem_replacementOrder.mp hname).1
  · exact absurd hliteral (place_not_mem_literal mark cell)

theorem cell?_map (change : String → String) (rows : List (List String)) (column row : Nat) :
    (Table.ofRows (rows.map fun cells => cells.map change)).cell? column row
      = ((Table.ofRows rows).cell? column row).map change := by
  simp only [Table.cell?, Table.row?, Table.ofRows, List.getElem?_map, Option.map_bind,
    Option.bind_map]
  congr 1
  funext cells
  exact List.getElem?_map

/-- For every cell and every set of bound names there is one sequence of pieces, and wherever the
cell stands, expanding fills it with the values, whatever they are, as long as no mark arises in
part from a value when its turn comes. That never happens when each value stands apart from the
marks replaced later. -/
theorem expand_fills_pieces (names : NameSet) (cell : String) :
    ∃ pieces : List Piece, (∀ mark, .place mark ∈ pieces → mark.name ∈ names)
      ∧ ∀ (inputs : List String) (binding : Binding), binding.names = names →
        (∀ name ∈ names, name ∈ inputs) →
        (Untouched binding.valueOf (marksOf names) (literal cell.toList) →
          ∀ (rows : List (List String)) (column row : Nat),
            (Table.ofRows rows).cell? column row = some cell →
            ∃ expanded, expand rows inputs binding = .ok expanded
              ∧ (Table.ofRows expanded).cell? column row
                = some (String.ofList (fill binding.valueOf pieces)))
        ∧ ((marksOf names).Pairwise (Apart binding.valueOf cell.toList) →
          Untouched binding.valueOf (marksOf names) (literal cell.toList)) := by
  refine ⟨pieces names cell.toList, fun mark => name_mem_of_place, ?_⟩
  rintro inputs binding rfl hinputs
  constructor
  · intro huntouched rows column row hcell
    refine ⟨_, expand_of_inputs (fun name hname => ?_) rows, ?_⟩
    · exact hinputs name (NameSet.mem_ofList.mpr hname)
    · rw [cell?_map, hcell, Option.map_some, substitute_eq_fill huntouched]
  · refine untouched_of_apart (source_literal _) ?_
    intro mark hmark
    obtain ⟨_, _, heq⟩ := List.mem_map.mp hmark
    cases heq

/-- Two values in one cell, both with an `@` at which no mark begins. -/
theorem expand_fills_pieces_two_values : ∃ (pieces : List Piece) (expanded : List (List String)),
    (∀ mark, .place mark ∈ pieces → mark.name ∈ NameSet.ofList ["x", "y"])
    ∧ expand [["say"], ["to", "@x and @{y}"]] ["x", "y"]
        (Binding.positional ["x", "y"] ["ann@home", "2@7"]) = .ok expanded
    ∧ (Table.ofRows expanded).cell? 1 1 = some "ann@home and 2@7"
    ∧ (Table.ofRows expanded).cell? 1 1
      = some (String.ofList
          (fill (Binding.positional ["x", "y"] ["ann@home", "2@7"]).valueOf pieces)) := by
  obtain ⟨pieces, hnames, hpieces⟩ :=
    expand_fills_pieces (NameSet.ofList ["x", "y"]) "@x and @{y}"
  have hbound : (Binding.positional ["x", "y"] ["ann@home", "2@7"]).names
      = NameSet.ofList ["x", "y"] := rfl
  obtain ⟨hexpand, huntouched⟩ := hpieces ["x", "y"] _ hbound
    (fun name hname => NameSet.mem_ofList.mp hname)
  obtain ⟨expanded, hexpanded, hcell⟩ :=
    hexpand (huntouched (by decide +kernel)) [["say"], ["to", "@x and @{y}"]] 1 1 rfl
  have hshown : (expand [["say"], ["to", "@x and @{y}"]] ["x", "y"]
      (Binding.positional ["x", "y"] ["ann@home", "2@7"])).toOption.bind
        (fun rows => (Table.ofRows rows).cell? 1 1) = some "ann@home and 2@7" := by decide +kernel
  rw [hexpanded] at hshown
  exact ⟨pieces, expanded, hnames, hexpanded, hshown, hcell⟩

/-- There is no sequence of pieces for all values of two inputs: the value of the first one is
searched for the mark of the second. -/
theorem no_pieces_for_all_values :
    ∃ header, Header.ofRows? [["scenario", "say _ to _", "x, y"], ["@x"]] = .ok header
    ∧ header.inputs = ["x", "y"]
    ∧ ¬ ∃ pieces : List Piece, ∀ binding : Binding, binding.names = NameSet.ofList header.inputs →
      expand [["@x"]] header.inputs binding
        = .ok [[String.ofList (fill binding.valueOf pieces)]] := by
  have hinputs : (Header.ofParameterized "say _ to _" ["x, y"]).inputs = ["x", "y"] := by
    decide +kernel
  refine ⟨_, rfl, hinputs, ?_⟩
  rintro ⟨pieces, hpieces⟩
  rw [hinputs] at hpieces
  have hfill (values : List String) (hnames : (Binding.positional ["x", "y"] values).names
      = NameSet.ofList ["x", "y"]) : fill (Binding.positional ["x", "y"] values).valueOf pieces
        = (substitute (pairsOf (Binding.positional ["x", "y"] values)) "@x").toList := by
    have hexpand := hpieces (Binding.positional ["x", "y"] values) hnames
    rw [expand_of_inputs (fun _ => Binding.mem_inputs_of_positional)] at hexpand
    simp only [List.map_cons, List.map_nil, Except.ok.injEq, List.cons.injEq, and_true] at hexpand
    rw [hexpand, String.toList_ofList]
  have hglued : fill (Binding.positional ["x", "y"] ["@y", ""]).valueOf pieces = [] :=
    (hfill ["@y", ""] rfl).trans (by decide +kernel)
  have hplain : fill (Binding.positional ["x", "y"] ["1", ""]).valueOf pieces = ['1'] :=
    (hfill ["1", ""] rfl).trans (by decide +kernel)
  have hnothing : fill (Binding.positional ["x", "y"] ["1", ""]).valueOf pieces = [] := by
    refine List.flatMap_eq_nil_iff.mpr fun piece hpiece => ?_
    have hempty := List.flatMap_eq_nil_iff.mp hglued piece hpiece
    cases piece with
    | char c => cases hempty
    | place mark =>
      by_cases hname : mark.name = "x"
      · rw [Piece.fill, hname] at hempty
        exact absurd hempty (by decide +kernel)
      · have hvalue : (Binding.positional ["x", "y"] ["1", ""]).valueOf mark.name = "" := by
          rw [Binding.valueOf, Binding.positional, Dictionary.ofList]
          simp only [List.zip_cons_cons, List.foldl_cons, List.zip_nil_right, List.foldl_nil,
            Dictionary.find?_insert, if_neg (Ne.symm hname), Dictionary.find?_empty]
          split <;> rfl
        rw [Piece.fill, hvalue]
        rfl
  rw [hnothing] at hplain
  cases hplain

end ScenarioTables.Expansion
