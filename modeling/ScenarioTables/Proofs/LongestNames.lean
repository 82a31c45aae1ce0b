import Mathlib.Data.List.MinMax
import ScenarioTables.Proofs.Capitals
import ScenarioTables.Proofs.Opacity

/-!
# Longest names

Names are replaced one after another, each in the whole text that the names before it have left. A
reader of a body goes through a cell once, from left to right, and takes each at sign together with
what stands behind it: a name in braces, or else the longest name (`markAt?`). The two come to the
same for names without signs of their own and values without at signs, in every cell in which
something stands between any two at signs that no mark can run over (`expand_scanned`). In other
cells a mark can begin in front of a value and end in it, which no single scan sees.
-/

set_option autoImplicit false

namespace ScenarioTables.Expansion

/-! ## One scan -/

/-- The names that a text begins with. The empty name has no mark. -/
def namesAt (names : List String) (text : List Char) : List String :=
  names.filter fun name => name ≠ "" ∧ Mark.tail ⟨name, false⟩ <+: text

/-- The mark behind an at sign: a name in braces, or else the longest of the names that the text
begins with. -/
def markAt? (names : List String) (text : List Char) : Option Mark :=
  match names.find? fun name => name ≠ "" ∧ Mark.tail ⟨name, true⟩ <+: text with
  | some name => some ⟨name, true⟩
  | none => ((namesAt names text).argmax String.length).map fun name => ⟨name, false⟩

/-- Cuts the text behind the next `skip` characters, which belong to a mark, into the marks that are
chosen behind its at signs and the characters between them. -/
def cutAfter (choose : List Char → Option Mark) : Nat → List Char → List Piece
  | _, [] => []
  | skip + 1, _ :: text => cutAfter choose skip text
  | 0, c :: text =>
    match if c = '@' then choose text else none with
    | some mark => .place mark :: cutAfter choose mark.tail.length text
    | none => .char c :: cutAfter choose 0 text

/-- The pieces of a text in one scan from the left. -/
def cut (choose : List Char → Option Mark) (text : List Char) : List Piece :=
  cutAfter choose 0 text

section Cut

variable {choose : List Char → Option Mark} {text : List Char}

theorem cutAfter_eq_drop (choose : List Char → Option Mark) (skip : Nat) (text : List Char) :
    cutAfter choose skip text = cut choose (text.drop skip) := by
  induction text generalizing skip with
  | nil => cases skip <;> rfl
  | cons c text ih =>
    cases skip with
    | zero => rfl
    | succ skip => exact ih skip

/-- Where the chosen mark begins the cut has its place. -/
theorem cut_mark {mark : Mark} {rest : List Char} (h : choose (mark.tail ++ rest) = some mark) :
    cut choose (mark.text ++ rest) = .place mark :: cut choose rest := by
  rw [cut, Mark.text, List.cons_append, cutAfter, if_pos rfl, h]
  exact congrArg _ ((cutAfter_eq_drop ..).trans (congrArg _ List.drop_left))

theorem cut_char {c : Char} (h : c = '@' → choose text = none) :
    cut choose (c :: text) = .char c :: cut choose text := by
  rw [cut, cutAfter]
  by_cases hat : c = '@'
  · rw [if_pos hat, h hat]
    rfl
  · rw [if_neg hat]
    rfl

/-- Characters other than at signs are passed. -/
theorem cut_append (h : '@' ∉ text) (rest : List Char) :
    cut choose (text ++ rest) = literal text ++ cut choose rest := by
  induction text with
  | nil => rfl
  | cons c text ih =>
    have hc : c = '@' → choose (text ++ rest) = none :=
      fun hat => absurd (hat ▸ List.mem_cons_self) h
    rw [List.cons_append, cut_char hc, ih (fun hmem => h (List.mem_cons_of_mem c hmem))]
    rfl

/-- A choice of marks that stand in the text. -/
def Chooses (choose : List Char → Option Mark) : Prop :=
  ∀ text mark, choose text = some mark → mark.tail <+: text

/-- Going through a text: a mark is chosen, or the first character is passed. -/
theorem Chooses.scan (hchoose : Chooses choose) {motive : List Char → Prop} (nil : motive [])
    (found : ∀ mark rest, choose (mark.tail ++ rest) = some mark → motive rest →
      motive (mark.text ++ rest))
    (passed : ∀ c rest, (c = '@' → choose rest = none) → motive rest → motive (c :: rest))
    (text : List Char) : motive text := by
  induction hlength : text.length using Nat.strongRecOn generalizing text with
  | ind length ih =>
    cases text with
    | nil => exact nil
    | cons c rest =>
      have hpassed := passed c rest
      have hrest := ih rest.length (hlength ▸ Nat.lt_succ_self _) rest rfl
      cases hmark : choose rest with
      | none => exact hpassed (fun _ => hmark) hrest
      | some mark =>
        by_cases hat : c = '@'
        · obtain ⟨behind, rfl⟩ := hchoose rest mark hmark
          have hshorter : behind.length < length := by
            rw [← hlength, List.length_cons, List.length_append]
            omega
          rw [hat]
          exact found mark behind hmark (ih behind.length hshorter behind rfl)
        · exact hpassed (absurd · hat) hrest

/-- Nothing of a text is lost. -/
theorem source_cut (hchoose : Chooses choose) (text : List Char) :
    source (cut choose text) = text := by
  induction text using hchoose.scan with
  | nil => rfl
  | found mark rest hmark ih => rw [cut_mark hmark, source, ih]
  | passed c rest hpass ih => rw [cut_char hpass, source, ih]

/-- A mark is chosen where no other is. -/
def orMark (choose : List Char → Option Mark) (mark : Mark) (text : List Char) : Option Mark :=
  (choose text).or (if mark.tail <+: text then some mark else none)

theorem placed_literal {mark : Mark} (h : '@' ∉ text) (rest : List Piece) :
    placed (literal text ++ rest) mark = literal text ++ placed rest mark := by
  induction text with
  | nil => rfl
  | cons c text ih =>
    have hpassed : ¬ literal mark.text <+: .char c :: (literal text ++ rest) := by
      intro hbegins
      have hat := Piece.char.inj (List.cons_prefix_cons.mp hbegins).1
      exact h (hat ▸ List.mem_cons_self)
    refine (placed_cons hpassed).trans (congrArg _ (ih fun hmem => ?_))
    exact h (List.mem_cons_of_mem c hmem)

/-- Putting places for one more mark is choosing that mark too, where no other is chosen. -/
theorem placed_cut (hchoose : Chooses choose) {mark : Mark} (hmark : '@' ∉ mark.tail)
    (text : List Char) : placed (cut choose text) mark = cut (orMark choose mark) text := by
  induction text using hchoose.scan with
  | nil => rfl
  | found other rest hother ih =>
    have hplace : ¬ literal mark.text <+: .place other :: cut choose rest := by
      intro hbegins
      cases (List.cons_prefix_cons.mp hbegins).1
    have hboth : orMark choose mark (other.tail ++ rest) = some other := by
      rw [orMark, hother, Option.some_or]
    rw [cut_mark hother, placed_cons hplace, ih, cut_mark hboth]
  | passed c rest hpass ih =>
    rw [cut_char hpass]
    by_cases hfound : c = '@' ∧ mark.tail <+: rest
    · obtain ⟨rfl, behind, rfl⟩ := hfound
      have hboth : orMark choose mark (mark.tail ++ behind) = some mark := by
        rw [orMark, hpass rfl, Option.none_or, if_pos (List.prefix_append ..)]
      rw [cut_append hmark, placed_literal hmark, cut_append hmark] at ih
      calc placed (.char '@' :: cut choose (mark.tail ++ behind)) mark
          = placed (literal mark.text ++ cut choose behind) mark := by rw [cut_append hmark]; rfl
        _ = .place mark :: placed (cut choose behind) mark := placed_mark ..
        _ = .place mark :: cut (orMark choose mark) behind := by rw [List.append_cancel_left ih]
        _ = cut (orMark choose mark) (mark.text ++ behind) := (cut_mark hboth).symm
    · have hboth : c = '@' → orMark choose mark rest = none := by
        intro hat
        rw [orMark, hpass hat, Option.none_or, if_neg fun hbegins => hfound ⟨hat, hbegins⟩]
      have hpassed : ¬ literal mark.text <+: .char c :: cut choose rest := by
        intro hbegins
        obtain ⟨hat, behind, hbehind⟩ := List.cons_prefix_cons.mp hbegins
        change literal mark.tail ++ behind = cut choose rest at hbehind
        have hsource := source_cut hchoose rest
        rw [← hbehind, source_append, source_literal] at hsource
        exact hfound ⟨(Piece.char.inj hat).symm, hsource ▸ List.prefix_append ..⟩
      rw [placed_cons hpassed, ih, cut_char hboth]

/-- Where nothing is ever chosen the cut is the text. -/
theorem cut_none (text : List Char) : cut (fun _ => none) text = literal text := by
  induction text with
  | nil => rfl
  | cons c text ih =>
    rw [cut_char fun _ => rfl, ih]
    rfl

/-- The first of some marks that a text begins with. -/
def firstMark? (marks : List Mark) (text : List Char) : Option Mark :=
  marks.find? fun mark => mark.tail <+: text

/-- The first mark in a list that begins a text can be chosen. -/
theorem chooses_firstMark? (marks : List Mark) : Chooses (firstMark? marks) := by
  intro text mark hmark
  have hbegins := List.find?_some (show marks.find? (fun mark => mark.tail <+: text) = some mark from
    hmark)
  exact of_decide_eq_true hbegins

/-- Putting places for marks in turn is choosing the first mark in each place. -/
theorem foldl_placed {marks : List Mark} (h : ∀ mark ∈ marks, '@' ∉ mark.tail) (text : List Char) :
    marks.foldl placed (literal text) = cut (firstMark? marks) text := by
  induction marks using List.reverseRecOn with
  | nil => exact (cut_none text).symm
  | append_singleton marks mark ih =>
    obtain ⟨hmarks, hmark⟩ := List.forall_mem_append.mp h
    have hfirst : orMark (firstMark? marks) mark = firstMark? (marks ++ [mark]) := by
      funext behind
      rw [orMark, firstMark?, firstMark?, List.find?_append, List.find?_singleton]
      simp only [decide_eq_true_eq]
    rw [List.foldl_append, List.foldl_cons, List.foldl_nil, ih hmarks,
      placed_cut (chooses_firstMark? marks) (hmark mark (List.mem_singleton_self mark)), hfirst]

end Cut

/-! ## The longest name goes first -/

/-- A text has at least as many bytes as characters. -/
theorem add_length_le_foldl_utf8Size (start : Nat) (cs : List Char) :
    start + cs.length ≤ cs.foldl (fun length c => length + c.utf8Size) start := by
  induction cs generalizing start with
  | nil => exact le_rfl
  | cons c cs ih =>
    rw [List.foldl_cons, List.length_cons]
    have hrest := ih (start + c.utf8Size)
    have hc := c.utf8Size_pos
    omega

/-- Of two names of which the first begins the second, the second is longer, or they are one. -/
theorem eq_of_prefix_of_byteLength_le {name other : String} (h : name.toList <+: other.toList)
    (hle : byteLength other ≤ byteLength name) : name = other := by
  obtain ⟨rest, hrest⟩ := h
  have hlength := add_length_le_foldl_utf8Size (byteLength name) rest
  rw [byteLength, ← List.foldl_append, hrest] at hlength
  have hnil : rest.length = 0 := by
    have := hlength.trans hle
    rw [byteLength] at this
    omega
  rw [List.length_eq_zero_iff.mp hnil, List.append_nil] at hrest
  exact String.toList_inj.mp hrest

/-- Every name but the empty one has its two marks. -/
theorem mem_marksOf {names : List String} {mark : Mark} :
    mark ∈ marksOf (NameSet.ofList names) ↔ mark.name ∈ names ∧ mark.name ≠ "" := by
  have hmarks (name : String) :
      mark ∈ [(⟨name, true⟩ : Mark), ⟨name, false⟩] ↔ mark.name = name := by
    obtain ⟨own, braced⟩ := mark
    cases braced <;> simp
  rw [marksOf, List.mem_flatMap, ← NameSet.mem_ofList, ← mem_replacementOrder]
  simp only [hmarks, exists_eq_right']

/-- Longer names go first. -/
theorem pairwise_marksOf (names : NameSet) : (marksOf names).Pairwise fun first second =>
    byteLength second.name ≤ byteLength first.name := by
  have horder : (replacementOrder names).Pairwise fun first second =>
      byteLength second ≤ byteLength first := by
    refine List.pairwise_map.mpr ((pairwise_inOrder _).imp fun hfirst => ?_)
    rcases goesFirst_iff.mp hfirst with hlonger | ⟨hsame, -⟩
    · exact hlonger.le
    · exact hsame.ge
  refine List.pairwise_flatMap.mpr ⟨fun name _ => ?_, horder.imp fun hle first hfirst second hsecond => ?_⟩
  · simp
  · simp only [List.mem_cons, List.not_mem_nil, or_false] at hfirst hsecond
    rcases hfirst with rfl | rfl <;> rcases hsecond with rfl | rfl <;> exact hle

/-- A name without the signs that marks are made of. -/
def IsPlain (name : String) : Prop :=
  ∀ c ∈ name.toList, c ≠ '@' ∧ c ≠ '\x7b' ∧ c ≠ '\x7d'

namespace IsPlain

variable {name : String} {mark : Mark} {text : List Char}

theorem not_mem_tail (h : IsPlain mark.name) : '@' ∉ mark.tail := by
  have hname : '@' ∉ mark.name.toList := fun hmem => (h '@' hmem).1 rfl
  obtain ⟨name, braced⟩ := mark
  cases braced with
  | false => exact hname
  | true => simpa [Mark.tail] using hname

/-- Where a name stands in braces, no other mark stands. -/
theorem eq_of_braced (hname : IsPlain name) (hbegins : Mark.tail ⟨name, true⟩ <+: text)
    (hmark : IsPlain mark.name) (hne : mark.name ≠ "") (hmarkBegins : mark.tail <+: text) :
    mark = ⟨name, true⟩ := by
  obtain ⟨rest, rfl⟩ := hbegins
  obtain ⟨other, braced⟩ := mark
  cases braced with
  | false =>
    -- A bare name would begin with the brace.
    exfalso
    obtain ⟨c, cs, hchars⟩ := List.exists_cons_of_ne_nil (mt String.toList_eq_nil_iff.mp hne)
    have hbrace : c :: cs <+: '\x7b' :: (name.toList ++ ['\x7d'] ++ rest) := hchars ▸ hmarkBegins
    exact (hmark c (hchars ▸ List.mem_cons_self)).2.1 (List.cons_prefix_cons.mp hbrace).1
  | true =>
    -- Both names end at the first closing brace.
    have hends {name : String} (hname : IsPlain name) (rest : List Char) :
        (name.toList ++ '\x7d' :: rest).takeWhile (· != '\x7d') = name.toList := by
      rw [List.takeWhile_append_of_pos fun c hc => bne_iff_ne.mpr (hname c hc).2.2,
        List.takeWhile_cons_of_neg (by simp), List.append_nil]
    obtain ⟨behind, hbehind⟩ := hmarkBegins
    have htext : other.toList ++ '\x7d' :: behind = name.toList ++ '\x7d' :: rest := by
      simpa [Mark.tail] using hbehind
    have hsame := hends hmark behind
    rw [htext, hends hname] at hsame
    rw [String.toList_inj.mp hsame]

end IsPlain

section Choice

variable {names : List String} {name : String} {text : List Char} {mark first : Mark}

/-- Where some mark begins, a first one is found. -/
theorem exists_firstMark? {marks : List Mark} (hmem : mark ∈ marks) (hbegins : mark.tail <+: text) :
    ∃ first, firstMark? marks text = some first ∧ first ∈ marks ∧ first.tail <+: text := by
  have hsome : (firstMark? marks text).isSome :=
    List.find?_isSome.mpr ⟨mark, hmem, decide_eq_true hbegins⟩
  obtain ⟨first, hfirst⟩ := Option.isSome_iff_exists.mp hsome
  exact ⟨first, hfirst, List.mem_of_find?_eq_some hfirst, chooses_firstMark? marks _ _ hfirst⟩

/-- No mark that stands in a text has a longer name than the first one. -/
theorem byteLength_le_of_firstMark? {set : NameSet}
    (hfirst : firstMark? (marksOf set) text = some first) (hmem : mark ∈ marksOf set)
    (hbegins : mark.tail <+: text) : byteLength mark.name ≤ byteLength first.name := by
  obtain ⟨-, before, behind, hmarks, hbefore⟩ := List.find?_eq_some_iff_append.mp hfirst
  have horder := pairwise_marksOf set
  rw [hmarks] at hmem horder
  rcases List.mem_append.mp hmem with hearlier | hlater
  · have hnot := hbefore mark hearlier
    simp [hbegins] at hnot
  · rcases List.mem_cons.mp hlater with rfl | hbehind
    · exact le_rfl
    · exact (List.pairwise_cons.mp (List.pairwise_append.mp horder).2.1).1 mark hbehind

/-- A name in braces goes before all bare names that begin there. -/
theorem firstMark?_of_braced (hplain : ∀ name ∈ names, IsPlain name) (hname : name ∈ names)
    (hne : name ≠ "") (hbegins : Mark.tail ⟨name, true⟩ <+: text) :
    firstMark? (marksOf (NameSet.ofList names)) text = some ⟨name, true⟩ := by
  have hmark : ⟨name, true⟩ ∈ marksOf (NameSet.ofList names) := mem_marksOf.mpr ⟨hname, hne⟩
  obtain ⟨first, hfirst, hmem, hfirstBegins⟩ := exists_firstMark? hmark hbegins
  obtain ⟨hin, hnonempty⟩ := mem_marksOf.mp hmem
  rw [hfirst, (hplain name hname).eq_of_braced hbegins (hplain first.name hin) hnonempty
    hfirstBegins]

/-- No name stands in braces. -/
def NoneBraced (names : List String) (text : List Char) : Prop :=
  ∀ mark ∈ marksOf (NameSet.ofList names), mark.tail <+: text → mark.braced = false

/-- The names at a place are those whose bare mark begins there. -/
theorem mem_namesAt : name ∈ namesAt names text
    ↔ ⟨name, false⟩ ∈ marksOf (NameSet.ofList names) ∧ Mark.tail ⟨name, false⟩ <+: text := by
  rw [namesAt, List.mem_filter, decide_eq_true_eq, mem_marksOf, and_assoc]

theorem firstMark?_eq_none (hbare : NoneBraced names text) (hnone : namesAt names text = []) :
    firstMark? (marksOf (NameSet.ofList names)) text = none := by
  refine List.find?_eq_none.mpr fun mark hmem hbegins => ?_
  have hmark := of_decide_eq_true hbegins
  obtain ⟨name, braced⟩ := mark
  obtain rfl : braced = false := hbare _ hmem hmark
  exact List.not_mem_nil (hnone ▸ mem_namesAt.mpr ⟨hmem, hmark⟩)

/-- The longest name is also the longest in bytes. -/
theorem firstMark?_of_longest (hbare : NoneBraced names text)
    (hlongest : (namesAt names text).argmax String.length = some name) :
    firstMark? (marksOf (NameSet.ofList names)) text = some ⟨name, false⟩ := by
  obtain ⟨hmark, hbegins⟩ := mem_namesAt.mp (List.argmax_mem hlongest)
  obtain ⟨⟨other, braced⟩, hfirst, hmem, hfirstBegins⟩ := exists_firstMark? hmark hbegins
  obtain rfl : braced = false := hbare _ hmem hfirstBegins
  have hbytes : byteLength name ≤ byteLength other :=
    byteLength_le_of_firstMark? hfirst hmark hbegins
  have hlength : other.length ≤ name.length :=
    List.le_of_mem_argmax (mem_namesAt.mpr ⟨hmem, hfirstBegins⟩) hlongest
  have hsame : other = name := by
    rcases List.prefix_or_prefix_of_prefix hfirstBegins hbegins with hother | hname
    · exact eq_of_prefix_of_byteLength_le hother hbytes
    · exact (String.toList_inj.mp (List.IsPrefix.eq_of_length_le hname hlength)).symm
  rw [hfirst, hsame]

/-- **The first mark in the order of replacement is the one that a reader takes.** -/
theorem firstMark?_eq_markAt? (hplain : ∀ name ∈ names, IsPlain name) :
    firstMark? (marksOf (NameSet.ofList names)) text = markAt? names text := by
  unfold markAt?
  split
  next name hname =>
    have hstands := List.find?_some hname
    simp only [decide_eq_true_eq] at hstands
    exact firstMark?_of_braced hplain (List.mem_of_find?_eq_some hname) hstands.1 hstands.2
  next hnone =>
    have hbare : NoneBraced names text := by
      rintro ⟨name, braced⟩ hmem hbegins
      obtain ⟨hname, hne⟩ := mem_marksOf.mp hmem
      cases braced with
      | false => rfl
      | true => exact absurd (decide_eq_true ⟨hne, hbegins⟩) (List.find?_eq_none.mp hnone name hname)
    cases hlongest : (namesAt names text).argmax String.length with
    | none => exact firstMark?_eq_none hbare (List.argmax_eq_none.mp hlongest)
    | some name => exact firstMark?_of_longest hbare hlongest

end Choice

/-! ## Marks that stand apart -/

/-- Between any two at signs of a cell stands a character that is in no name and opens no braces. -/
def Separated (names : List String) (cell : List Char) : Prop :=
  ∀ front between last, cell = front ++ '@' :: between ++ '@' :: last →
    ∃ c ∈ between, c ≠ '\x7b' ∧ ∀ name ∈ names, c ∉ name.toList

/-- Whether at signs are separated can be read off the finitely many cuts of the cell. -/
theorem separated_iff {names : List String} {cell : List Char} : Separated names cell ↔
    ∀ outer ∈ cuts cell, outer.2.head? = some '@' →
      ∀ inner ∈ cuts outer.2.tail, inner.2.head? = some '@' →
        inner.1.any fun c => c ≠ '\x7b' ∧ ∀ name ∈ names, c ∉ name.toList := by
  simp only [List.any_eq_true, decide_eq_true_eq]
  constructor
  · rintro h ⟨front, rest⟩ houter hhead ⟨between, behind⟩ hinner hlast
    obtain ⟨tail, rfl⟩ := List.head?_eq_some_iff.mp hhead
    obtain ⟨last, rfl⟩ := List.head?_eq_some_iff.mp hlast
    refine h front between last ?_
    rw [mem_cuts.mp houter, List.append_assoc, List.cons_append]
    exact congrArg (front ++ '@' :: ·) (mem_cuts.mp hinner)
  · rintro h front between last rfl
    refine h (front, '@' :: (between ++ '@' :: last)) (mem_cuts.mpr ?_) rfl
      (between, '@' :: last) (mem_cuts.mpr rfl) rfl
    rw [List.append_assoc, List.cons_append]

instance (names : List String) (cell : List Char) : Decidable (Separated names cell) :=
  decidable_of_iff' _ separated_iff

/-- In a separated cell every value without at signs stands apart from every mark. -/
theorem Separated.apart {names : List String} {cell : List Char} (h : Separated names cell)
    {valueOf : String → String} (hvalues : ∀ name, '@' ∉ (valueOf name).toList) (mark : Mark)
    {later : Mark} (hlater : later.name ∈ names) : Apart valueOf cell mark later where
  inside _ _ _ _ _ hvalue := absurd (hvalue ▸ List.mem_append_right _ List.mem_cons_self)
    (hvalues mark.name)
  across := by
    intro front between last hcell
    obtain ⟨c, hc, hbrace, hnames⟩ := h front between (mark.tail ++ last) (by
      rw [hcell, Mark.text, List.append_assoc _ _ last, List.cons_append])
    by_cases hbetween : later.tail <+: between
    · exact Or.inl hbetween
    right
    -- The separating character keeps the mark from running over all of the text between.
    have hnot : ¬ between <+: later.tail := by
      intro hbegins
      obtain ⟨name, braced⟩ := later
      cases braced with
      | false => exact hnames name hlater (hbegins.subset hc)
      | true =>
        rcases List.prefix_concat_iff.mp hbegins with hwhole | hinner
        · exact hbetween (hwhole ▸ List.prefix_rfl)
        · rcases List.mem_cons.mp (hinner.subset hc) with hopen | hname
          · exact hbrace hopen
          · exact hnames name hlater hname
    have hfront := List.prefix_append between (valueOf mark.name).toList
    constructor
    · intro hbegins
      exact (List.prefix_or_prefix_of_prefix hbegins hfront).elim hbetween hnot
    · intro hbegins
      exact hnot (hfront.trans hbegins)

/-- In a separated cell no mark arises from values without at signs. -/
theorem Separated.untouched {binding : Binding} {cell : List Char}
    (h : Separated binding.keys cell) (hvalues : ∀ value ∈ binding.values, '@' ∉ value.toList) :
    Untouched binding.valueOf (marksOf binding.names) (literal cell) := by
  have hvalueOf : ∀ name, '@' ∉ (binding.valueOf name).toList := by
    intro name
    rw [Binding.valueOf]
    cases hvalue : binding.find? name with
    | none => exact List.not_mem_nil
    | some value => exact hvalues value (Dictionary.mem_values_of_find? hvalue)
  refine untouched_of_apart (source_literal cell)
    (fun mark hmark => absurd hmark (place_not_mem_literal mark cell)) ?_
  refine List.pairwise_of_forall_mem_list fun mark _ later hlater => ?_
  exact h.apart hvalueOf mark ((mem_marksOf.mp hlater).1)

/-- The pieces of a cell are those of one scan. -/
theorem pieces_eq_cut {names : List String} (hplain : ∀ name ∈ names, IsPlain name)
    (cell : List Char) : pieces (NameSet.ofList names) cell = cut (markAt? names) cell := by
  have htails : ∀ mark ∈ marksOf (NameSet.ofList names), '@' ∉ mark.tail := fun mark hmark =>
    (hplain mark.name ((mem_marksOf.mp hmark).1)).not_mem_tail
  rw [pieces, foldl_placed htails]
  exact congrArg (cut · cell) (funext fun text => firstMark?_eq_markAt? hplain)

/-! ## The names of inputs -/

/-- Method-style names have no sign of marks and no brace. -/
theorem isPlain_methodName (text : String) : IsPlain (Identifier.methodName text) := by
  have habsent {sign : Char} (hsign : Text.IsSign sign) (hends : Text.isWordChar sign = false) :
      sign ∉ (Identifier.methodName text).toList := by
    rw [Identifier.methodName, String.toList_ofList]
    exact hsign.not_mem_methodStyle hends _
  intro c hc
  refine ⟨?_, ?_, ?_⟩ <;> rintro rfl <;> exact habsent (by decide) (by decide) hc

/-- The inputs of a header are method-style names, so they are plain. -/
theorem isPlain_of_declare {title : String} {parameterized : Bool}
    {nameCells declarations : List String} :
    ∀ name ∈ (Header.declare title parameterized nameCells declarations).inputs, IsPlain name := by
  intro name hname
  obtain ⟨argument, hargument, hinput⟩ := List.mem_filterMap.mp hname
  obtain ⟨text, -, rfl⟩ := List.mem_map.mp hargument
  unfold Argument.ofText at hinput
  split at hinput
  next => exact absurd hinput (Option.some_ne_none name).symm
  next =>
    rw [← Option.some.inj hinput]
    exact isPlain_methodName _

/-- The inputs of a header are plain names. -/
theorem isPlain_of_header {rows : List (List String)} {header : Header}
    (h : Header.ofRows? rows = .ok header) : ∀ name ∈ header.inputs, IsPlain name := by
  unfold Header.ofRows? Header.ofCells? at h
  split at h
  next =>
    split at h
    next =>
      rw [← Except.ok.inj h, Header.ofParameterized]
      exact isPlain_of_declare
    next =>
      rw [← Except.ok.inj h, Header.ofAlternating]
      exact isPlain_of_declare
  next => cases h

/-- **Longest name wins.** The inputs of every header are names without at signs and braces. When
such names are bound to values without at signs, expanding yields in every separated cell what one
scan of the cell yields: each mark that it takes becomes the value of its name, and every other
character stays. -/
theorem expand_scanned :
    (∀ rows header, Header.ofRows? rows = .ok header → ∀ name ∈ header.inputs, IsPlain name)
    ∧ ∀ (rows : List (List String)) (inputs : List String) (binding : Binding),
      (∀ name ∈ binding.keys, name ∈ inputs) → (∀ name ∈ binding.keys, IsPlain name) →
      (∀ value ∈ binding.values, '@' ∉ value.toList) →
      ∃ expanded, expand rows inputs binding = .ok expanded
        ∧ ∀ column row cell, (Table.ofRows rows).cell? column row = some cell →
          Separated binding.keys cell.toList →
            (Table.ofRows expanded).cell? column row
              = some (String.ofList (fill binding.valueOf (cut (markAt? binding.keys) cell.toList))) := by
  refine ⟨fun rows header => isPlain_of_header, fun rows inputs binding hinputs hplain hvalues => ?_⟩
  refine ⟨_, expand_of_inputs hinputs rows, fun column row cell hcell hseparated => ?_⟩
  rw [cell?_map, hcell, Option.map_some, substitute_eq_fill (hseparated.untouched hvalues)]
  exact congrArg (fun pieces => some (String.ofList (fill binding.valueOf pieces)))
    (pieces_eq_cut hplain cell.toList)

/-- One name begins the other, and two at signs have no mark. -/
theorem expand_scanned_total :
    ∃ header expanded,
      Header.ofRows? [["scenario", "put _ of _", "tot, total"]] = .ok header
      ∧ expand [["say"], ["put", "@total / @{tot}al, @to @"]] header.inputs
          (Binding.positional header.inputs ["1", "99"]) = .ok expanded
      ∧ (Table.ofRows expanded).cell? 1 1 = some "99 / 1al, @to @" := by
  let header := Header.ofParameterized "put _ of _" ["tot, total"]
  have hheader : Header.ofRows? [["scenario", "put _ of _", "tot, total"]] = .ok header := rfl
  have hinputs : header.inputs = ["tot", "total"] := by decide +kernel
  obtain ⟨hplain, hscanned⟩ := expand_scanned
  have hnames := hplain _ _ hheader
  obtain ⟨expanded, hexpanded, hcells⟩ :=
    hscanned [["say"], ["put", "@total / @{tot}al, @to @"]] header.inputs
      (Binding.positional header.inputs ["1", "99"])
      (fun name => Binding.mem_inputs_of_positional)
      (fun name hname => hnames name (Binding.mem_inputs_of_positional hname))
      (by rw [hinputs]; decide +kernel)
  refine ⟨header, expanded, hheader, hexpanded, ?_⟩
  rw [hcells 1 1 "@total / @{tot}al, @to @" rfl (by rw [hinputs]; decide +kernel), hinputs]
  decide +kernel

end ScenarioTables.Expansion
