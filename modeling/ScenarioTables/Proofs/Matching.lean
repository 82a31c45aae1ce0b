import Mathlib.Data.List.Infix
import ScenarioTables.Proofs.Patterns

/-!
# What a phrase gives to a template

The parts that `captures` takes are computed for all endings of the phrase together, from the last
piece to the first. For each ending they are those of the match that a backtracking search for the
template's pattern finds first (`partsOfEndings_eq`), so `captures` takes what the pattern captures.
Hence a phrase is matched if it can be read in any way at all, and it is read in the way that gives
most to the earlier places (`captures_greatest`).
-/

set_option autoImplicit false

namespace ScenarioTables.NameTemplate

open Pattern

/-- The match of some pieces that is found first. -/
def firstParts (pieces : List Piece) (cs : List Char) : Parts :=
  (candidates pieces cs).head?

/-- At the end of a pattern nothing may be left of the phrase. -/
theorem endParts_eq (cs : List Char) : endParts cs = cs.tails.map (firstParts []) := by
  induction cs with
  | nil => rfl
  | cons c cs ih => rw [endParts, ih, List.tails_cons, List.map_cons]; rfl

/-- A literal is taken character by character. -/
theorem literalParts_eq (literal : List Char) (pieces : List Piece) (cs : List Char) :
    literalParts literal cs (cs.tails.map (firstParts pieces))
      = cs.tails.map (firstParts (literal.map .char ++ pieces)) := by
  have hfirst (cs : List Char) : firstParts (literal.map .char ++ pieces) cs
      = if literal.isPrefixOf cs
        then ((cs.tails.map (firstParts pieces))[literal.length]?).join else none := by
    rw [firstParts, candidates_literal]
    split
    next hprefix =>
      have hlength : literal.length < cs.tails.length := by
        rw [List.length_tails]
        exact Nat.lt_succ_of_le (List.isPrefixOf_iff_prefix.mp hprefix).length_le
      rw [List.getElem?_map, List.getElem?_eq_getElem hlength, List.getElem_tails]
      rfl
    next => rfl
  induction cs with
  | nil => exact congrArg (· :: []) (hfirst []).symm
  | cons c cs ih =>
    have hcons := hfirst (c :: cs)
    rw [List.tails_cons, List.map_cons] at hcons ⊢
    rw [literalParts, List.tail_cons, ih, List.map_cons, hcons]

/-- The first match of a group, by whether the text without its first character has a match. -/
theorem firstParts_group (pieces : List Piece) (c : Char) (cs : List Char) :
    firstParts (.group :: pieces) (c :: cs)
      = extendParts c (firstParts (.group :: pieces) cs) (firstParts pieces (c :: cs)) := by
  have hlater : ((candidates pieces (c :: cs)).map ([] :: ·)).head?
      = (firstParts pieces (c :: cs)).map ([] :: ·) := List.head?_map
  rw [firstParts, candidates, greedy, List.head?_append, hlater]
  by_cases hline : c = '\n'
  · rw [if_pos hline]
    unfold extendParts
    split
    next => rw [if_pos hline]; rfl
    next => rfl
  · rw [if_neg hline, List.head?_map]
    unfold extendParts
    split
    next part parts hshorter =>
      rw [if_neg hline, show (greedy (candidates pieces) cs).head? = _ from hshorter]
      rfl
    next hshorter =>
      -- A match of a group begins with the group's text, so there is no shorter match at all.
      cases hfirst : (greedy (candidates pieces) cs).head? with
      | none => rfl
      | some parts =>
        obtain ⟨part, _, others, -, -, -, rfl⟩ := mem_greedy.mp (List.mem_of_head? hfirst)
        exact absurd hfirst (hshorter part others)

/-- The parts with a group in front are computed from the end, as the group grows. -/
theorem placeParts_eq (pieces : List Piece) (cs : List Char) :
    placeParts cs (cs.tails.map (firstParts pieces))
      = cs.tails.map (firstParts (.group :: pieces)) := by
  induction cs with
  | nil =>
    have hempty : firstParts (.group :: pieces) [] = (firstParts pieces []).map ([] :: ·) :=
      List.head?_map
    exact congrArg (· :: []) hempty.symm
  | cons c cs ih =>
    have hhead : (cs.tails.map (firstParts (.group :: pieces))).head?.join
        = firstParts (.group :: pieces) cs := by
      cases cs <;> rfl
    rw [List.tails_cons, List.map_cons, placeParts, ih, List.map_cons, hhead, firstParts_group]

/-- The parts for every ending are those of the first match. -/
theorem partsOfEndings_eq (cs : List Char) (tokens : List Token) :
    partsOfEndings cs tokens = cs.tails.map (firstParts (piecesOf tokens)) := by
  induction tokens with
  | nil => exact endParts_eq cs
  | cons token tokens ih =>
    cases token with
    | literal text => rw [partsOfEndings, ih, literalParts_eq]; rfl
    | placeholder => rw [partsOfEndings, ih, placeParts_eq]; rfl

/-- A phrase gives to a template what the groups hold in the first match of its pattern. -/
theorem captures_eq_firstMatch? (template : NameTemplate) (phrase : String) :
    template.captures phrase = firstMatch? template.pattern phrase := by
  have hhead (cs : List Char) (f : List Char → Parts) : (cs.tails.map f).head?.join = f cs := by
    cases cs <;> rfl
  rw [captures, partsOfEndings_eq, hhead, firstMatch?, read?_pattern]
  rfl

/-! ## Readings of a phrase -/

/-- **A reading of a phrase**: texts, each on one line, that give the phrase in the places of the
template. -/
structure Reads (template : NameTemplate) (phrase : String) (values : List String) : Prop where
  fill : template.fill values = some phrase
  oneLine : ∀ value ∈ values, '\n' ∉ value.toList

variable {template : NameTemplate} {phrase : String} {values : List String}

/-- The ways to read a phrase are the candidates of its pattern. -/
theorem reads_iff_mem_candidates : template.Reads phrase values ↔
    values.map String.toList ∈ candidates (piecesOf template.tokens) phrase.toList := by
  have hvalues : (values.map String.toList).map String.ofList = values := by
    rw [List.map_map]
    exact List.map_id'' (fun value => String.ofList_toList) values
  rw [mem_candidates, hvalues, List.forall_mem_map]
  constructor
  · rintro ⟨hfill, hline⟩
    exact ⟨hfill, hline⟩
  · rintro ⟨hfill, hline⟩
    exact ⟨hfill, hline⟩

/-- The captures are the first candidate. -/
theorem head?_candidates_of_captures (h : template.captures phrase = some values) :
    (candidates (piecesOf template.tokens) phrase.toList).head?
      = some (values.map String.toList) := by
  rw [captures_eq_firstMatch?, firstMatch?, read?_pattern, Option.bind_some] at h
  obtain ⟨parts, hparts, rfl⟩ := Option.map_eq_some_iff.mp h
  rw [hparts, List.map_map]
  exact congrArg some (List.map_id'' (fun part => String.toList_ofList) parts).symm

/-- What is captured reads the phrase. -/
theorem reads_of_captures (h : template.captures phrase = some values) :
    template.Reads phrase values :=
  reads_iff_mem_candidates.mpr (List.mem_of_head? (head?_candidates_of_captures h))

/-- The texts taken from a phrase give the phrase back. -/
theorem fill_of_captures (h : template.captures phrase = some values) :
    template.fill values = some phrase :=
  (reads_of_captures h).fill

/-- A phrase that can be read is captured. -/
theorem captures_isSome_iff :
    (template.captures phrase).isSome ↔ ∃ values, template.Reads phrase values := by
  constructor
  · intro h
    obtain ⟨values, hvalues⟩ := Option.isSome_iff_exists.mp h
    exact ⟨values, reads_of_captures hvalues⟩
  · rintro ⟨values, hreads⟩
    have hmem := reads_iff_mem_candidates.mp hreads
    rw [captures_eq_firstMatch?, firstMatch?, read?_pattern, Option.bind_some, Option.isSome_map,
      List.isSome_head?]
    exact List.ne_nil_of_mem hmem

/-- Every other reading gives less to the first place in which it differs. -/
theorem lt_captures {other : List String} (h : template.captures phrase = some values)
    (hother : template.Reads phrase other) (hne : other ≠ values) :
    other.map String.length < values.map String.length := by
  obtain ⟨later, hcandidates⟩ := List.head?_eq_some_iff.mp (head?_candidates_of_captures h)
  have hmem := reads_iff_mem_candidates.mp hother
  have hordered := pairwise_candidates (piecesOf template.tokens) phrase.toList
  rw [hcandidates] at hmem hordered
  have hlengths (texts : List String) :
      (texts.map String.toList).map List.length = texts.map String.length := by
    rw [List.map_map]
    rfl
  rcases List.mem_cons.mp hmem with hsame | hlater
  · exact absurd (List.map_injective_iff.mpr (fun _ _ => String.toList_inj.mp) hsame) hne
  · have hlonger := (List.pairwise_cons.mp hordered).1 _ hlater
    rw [Longer, hlengths, hlengths] at hlonger
    exact hlonger

theorem length_of_fillTokens {tokens : List Token}
    (h : fillTokens tokens values = some phrase) : values.length = tokens.count .placeholder := by
  fun_induction fillTokens tokens values generalizing phrase with
  | case1 => rfl
  | case2 | case4 => cases h
  | case3 values text tokens ih =>
    obtain ⟨behind, hbehind, -⟩ := Option.map_eq_some_iff.mp h
    rw [List.count_cons_of_ne (by simp), ih hbehind]
  | case5 tokens value values ih =>
    obtain ⟨behind, hbehind, -⟩ := Option.map_eq_some_iff.mp h
    rw [List.count_cons_self, List.length_cons, ih hbehind]

/-- **Matching is exact and greedy.** The captures of a phrase are what the template's pattern
captures. There are some exactly if the phrase has a reading; then they are a reading themselves,
one text for each place, and of all readings the one whose lengths come last in lexicographic
order. -/
theorem captures_greatest (template : NameTemplate) (phrase : String) :
    template.captures phrase = firstMatch? template.pattern phrase
      ∧ ((template.captures phrase).isSome ↔ ∃ values, template.Reads phrase values)
      ∧ (template.isMatch phrase ↔ ∃ values, template.Reads phrase values)
      ∧ ∀ captures, template.captures phrase = some captures →
          template.Reads phrase captures
            ∧ captures.length = template.placeholderCount
            ∧ ∀ values, template.Reads phrase values → values ≠ captures →
                values.map String.length < captures.map String.length := by
  refine ⟨captures_eq_firstMatch? template phrase, captures_isSome_iff, captures_isSome_iff, ?_⟩
  intro captures hcaptures
  have hreads := reads_of_captures hcaptures
  exact ⟨hreads, length_of_fillTokens hreads.fill, fun values => lt_captures hcaptures⟩

/-- A phrase with two readings. -/
theorem captures_greatest_move :
    (parse "move _ to _").captures "move a to b to c" = some ["a to b", "c"]
      ∧ (parse "move _ to _").Reads "move a to b to c" ["a", "b to c"]
      ∧ ["a", "b to c"].map String.length < ["a to b", "c"].map String.length := by
  have hcaptures : (parse "move _ to _").captures "move a to b to c" = some ["a to b", "c"] := by
    decide +kernel
  have hreads : (parse "move _ to _").Reads "move a to b to c" ["a", "b to c"] :=
    ⟨by decide +kernel, by decide +kernel⟩
  obtain ⟨-, -, -, hgreatest⟩ := captures_greatest (parse "move _ to _") "move a to b to c"
  exact ⟨hcaptures, hreads, (hgreatest _ hcaptures).2.2 _ hreads (by decide +kernel)⟩

end ScenarioTables.NameTemplate
