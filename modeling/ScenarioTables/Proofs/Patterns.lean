import ScenarioTables.NameTemplate.Pattern
import ScenarioTables.NameTemplate.Filling

/-!
# What a pattern text matches

A regular expression engine that backtracks tries the ways to match a text in a fixed order and
takes the first that succeeds. For the patterns of name templates this order is a list:
`candidates` holds the groups of every match, the match that is found first in front. What a text
of pieces means is read back from its characters (`read?`), and escaping makes a literal match
itself (`read?_pattern`).

The list is complete (`mem_candidates`): it holds exactly the texts on one line each that give the
phrase in the places of the template. It is ordered (`pairwise_candidates`): of two matches the
earlier one gives more to the first group in which they differ. Only the patterns that templates
write are read; other regular expressions have no pieces here.
-/

set_option autoImplicit false

namespace ScenarioTables.Pattern

/-- A piece of a pattern. -/
inductive Piece where
  /-- One character, as it is. -/
  | char (c : Char)
  /-- A group of any text on one line, as much of it as possible. -/
  | group
  deriving DecidableEq, Repr

/-- The pieces of a pattern text behind its first anchor. -/
def readPieces? : List Char → Option (List Piece)
  | ['$'] => some []
  | '(' :: '.' :: '*' :: ')' :: rest => (readPieces? rest).map (.group :: ·)
  | '\\' :: c :: rest =>
    if NameTemplate.isSpecial c then (readPieces? rest).map (.char c :: ·) else none
  | c :: rest =>
    if NameTemplate.isSpecial c then none else (readPieces? rest).map (.char c :: ·)
  | [] => none

/-- The pieces of a pattern text that is anchored at both ends. -/
def read? : List Char → Option (List Piece)
  | '^' :: rest => readPieces? rest
  | _ => none

/-- The ways to match a group and what stands behind it. The group ends only when every way in which
it takes another character has been tried. -/
def greedy (behind : List Char → List (List (List Char))) : List Char → List (List (List Char))
  | [] => (behind []).map ([] :: ·)
  | c :: cs =>
    (if c = '\n' then [] else (greedy behind cs).map (List.modifyHead (c :: ·)))
      ++ (behind (c :: cs)).map ([] :: ·)

/-- The groups of every match of a whole text, in the order in which a backtracking search finds the
matches. -/
def candidates : List Piece → List Char → List (List (List Char))
  | [], [] => [[]]
  | [], _ :: _ => []
  | .char _ :: _, [] => []
  | .char c :: pieces, d :: cs => if c = d then candidates pieces cs else []
  | .group :: pieces, cs => greedy (candidates pieces) cs

/-- The groups of the match that is found first. -/
def firstMatch? (pattern phrase : String) : Option (List String) :=
  (read? pattern.toList).bind fun pieces =>
    ((candidates pieces phrase.toList).head?).map (·.map String.ofList)

/-- The pieces that the pattern text of some tokens is made of. -/
def piecesOf : List Token → List Piece
  | [] => []
  | .literal text :: tokens => text.toList.map .char ++ piecesOf tokens
  | .placeholder :: tokens => .group :: piecesOf tokens

/-! ## Reading -/

/-- Escaped text is read as its characters. -/
theorem readPieces?_escape (text rest : List Char) :
    readPieces? (NameTemplate.escape text ++ rest)
      = (readPieces? rest).map (text.map Piece.char ++ ·) := by
  induction text with
  | nil => simp [NameTemplate.escape]
  | cons c text ih =>
    have hescape : NameTemplate.escape (c :: text)
        = (if NameTemplate.isSpecial c then ['\\', c] else [c]) ++ NameTemplate.escape text := rfl
    rw [hescape]
    cases hspecial : NameTemplate.isSpecial c with
    | true =>
      simp only [if_true, List.cons_append, List.nil_append, readPieces?, hspecial, ih,
        Option.map_map]
      rfl
    | false =>
      have hplain (rest : List Char) :
          readPieces? (c :: rest) = (readPieces? rest).map (.char c :: ·) := by
        rw [readPieces?, if_neg (by rw [hspecial]; exact Bool.false_ne_true)]
        · rintro rfl; cases hspecial
        · rintro _ rfl; cases hspecial
        · rintro _ _ rfl; cases hspecial
      simp only [Bool.false_eq_true, if_false, List.cons_append, List.nil_append, hplain, ih,
        Option.map_map]
      rfl

/-- The pattern of tokens is read as their pieces. -/
theorem readPieces?_tokens (tokens : List Token) :
    readPieces? (tokens.flatMap NameTemplate.tokenPattern ++ ['$']) = some (piecesOf tokens) := by
  induction tokens with
  | nil => rfl
  | cons token tokens ih =>
    rw [List.flatMap_cons, List.append_assoc]
    cases token with
    | literal text => rw [NameTemplate.tokenPattern, readPieces?_escape, ih]; rfl
    | placeholder =>
      have hgroup (rest : List Char) : readPieces? (NameTemplate.tokenPattern .placeholder ++ rest)
          = (readPieces? rest).map (.group :: ·) := rfl
      rw [hgroup, ih]
      rfl

/-- The pattern text of a template is read as its tokens: escaping makes a literal match itself. -/
theorem read?_pattern (template : NameTemplate) :
    read? template.pattern.toList = some (piecesOf template.tokens) := by
  rw [NameTemplate.pattern, String.toList_ofList]
  exact readPieces?_tokens template.tokens

/-! ## Every match is a candidate -/

/-- A group takes any part without a line break for which the rest matches what stands behind. -/
theorem mem_greedy {behind : List Char → List (List (List Char))} {cs : List Char}
    {parts : List (List Char)} :
    parts ∈ greedy behind cs ↔ ∃ part rest others, cs = part ++ rest ∧ '\n' ∉ part
      ∧ others ∈ behind rest ∧ parts = part :: others := by
  induction cs generalizing parts with
  | nil =>
    simp only [greedy, List.mem_map]
    constructor
    · rintro ⟨others, hothers, rfl⟩
      exact ⟨[], [], others, rfl, List.not_mem_nil, hothers, rfl⟩
    · rintro ⟨part, rest, others, hcs, -, hothers, rfl⟩
      obtain ⟨rfl, rfl⟩ := List.append_eq_nil_iff.mp hcs.symm
      exact ⟨others, hothers, rfl⟩
  | cons c cs ih =>
    rw [greedy, List.mem_append, List.mem_map]
    constructor
    · rintro (hlonger | ⟨others, hothers, rfl⟩)
      · split at hlonger
        next => cases hlonger
        next hline =>
          obtain ⟨shorter, hshorter, rfl⟩ := List.mem_map.mp hlonger
          obtain ⟨part, rest, others, rfl, hpart, hothers, rfl⟩ := ih.mp hshorter
          refine ⟨c :: part, rest, others, rfl, ?_, hothers, rfl⟩
          rintro (_ | ⟨_, hmem⟩)
          · exact hline rfl
          · exact hpart hmem
      · exact ⟨[], c :: cs, others, rfl, List.not_mem_nil, hothers, rfl⟩
    · rintro ⟨part, rest, others, hcs, hpart, hothers, rfl⟩
      cases part with
      | nil => exact Or.inr ⟨others, hcs ▸ hothers, rfl⟩
      | cons d part =>
        obtain ⟨rfl, rfl⟩ := List.cons.inj hcs
        rw [List.mem_cons, not_or] at hpart
        refine Or.inl ?_
        rw [if_neg (fun hline => hpart.1 hline.symm)]
        have hshorter : part :: others ∈ greedy behind (part ++ rest) :=
          ih.mpr ⟨part, rest, others, rfl, hpart.2, hothers, rfl⟩
        exact List.mem_map.mpr ⟨part :: others, hshorter, rfl⟩

theorem candidates_literal (text : List Char) (pieces : List Piece) (cs : List Char) :
    candidates (text.map .char ++ pieces) cs
      = if text.isPrefixOf cs then candidates pieces (cs.drop text.length) else [] := by
  induction text generalizing cs with
  | nil => rfl
  | cons c text ih =>
    cases cs with
    | nil => rfl
    | cons d cs =>
      rw [List.map_cons, List.cons_append, candidates, ih, List.isPrefixOf, List.length_cons,
        List.drop_succ_cons]
      by_cases hcd : c = d
      · simp [hcd]
      · simp [hcd]

theorem candidates_nil (phrase : String) :
    candidates [] phrase.toList = if phrase = "" then [[]] else [] := by
  split
  next hempty => rw [hempty]; rfl
  next hne =>
    cases hphrase : phrase.toList with
    | nil => exact absurd (String.toList_eq_nil_iff.mp hphrase) hne
    | cons c cs => rfl

/-- A literal is matched by itself in front of a match. -/
theorem mem_candidates_literal {text phrase : String} {pieces : List Piece}
    {parts : List (List Char)} :
    parts ∈ candidates (text.toList.map .char ++ pieces) phrase.toList ↔
      ∃ behind : String, text ++ behind = phrase ∧ parts ∈ candidates pieces behind.toList := by
  rw [candidates_literal]
  constructor
  · intro hparts
    split at hparts
    next hprefix =>
      obtain ⟨rest, hrest⟩ := List.isPrefixOf_iff_prefix.mp hprefix
      refine ⟨String.ofList rest, ?_, ?_⟩
      · rw [← String.toList_inj, String.toList_append, String.toList_ofList, hrest]
      · rw [← hrest, List.drop_left] at hparts
        rw [String.toList_ofList]
        exact hparts
    next => cases hparts
  · rintro ⟨behind, rfl, hparts⟩
    have hprefix : text.toList.isPrefixOf (text ++ behind).toList = true := by
      rw [String.toList_append]
      exact List.isPrefixOf_iff_prefix.mpr (List.prefix_append _ _)
    rw [if_pos hprefix, String.toList_append, List.drop_left]
    exact hparts

/-- A group is matched by any text on one line in front of a match. -/
theorem mem_candidates_group {phrase : String} {pieces : List Piece} {parts : List (List Char)} :
    parts ∈ candidates (.group :: pieces) phrase.toList ↔
      ∃ (part : List Char) (behind : String) (others : List (List Char)),
        String.ofList part ++ behind = phrase ∧ '\n' ∉ part
          ∧ others ∈ candidates pieces behind.toList ∧ parts = part :: others := by
  rw [candidates, mem_greedy]
  constructor
  · rintro ⟨part, rest, others, hphrase, hpart, hothers, rfl⟩
    refine ⟨part, String.ofList rest, others, ?_, hpart, ?_, rfl⟩
    · rw [← String.ofList_append, ← hphrase, String.ofList_toList]
    · rw [String.toList_ofList]
      exact hothers
  · rintro ⟨part, behind, others, rfl, hpart, hothers, rfl⟩
    refine ⟨part, behind.toList, others, ?_, hpart, hothers, rfl⟩
    rw [String.toList_append, String.toList_ofList]

/-- The candidates are the texts on one line each that fill the places. -/
theorem mem_candidates {tokens : List Token} {phrase : String} {parts : List (List Char)} :
    parts ∈ candidates (piecesOf tokens) phrase.toList ↔
      NameTemplate.fillTokens tokens (parts.map String.ofList) = some phrase
        ∧ ∀ part ∈ parts, '\n' ∉ part := by
  induction tokens generalizing phrase parts with
  | nil =>
    rw [piecesOf, candidates_nil]
    cases parts with
    | nil => by_cases hempty : phrase = "" <;> simp [hempty, NameTemplate.fillTokens, eq_comm]
    | cons part parts => split <;> simp [NameTemplate.fillTokens]
  | cons token tokens ih =>
    cases token with
    | literal text =>
      rw [piecesOf, mem_candidates_literal, NameTemplate.fillTokens]
      constructor
      · rintro ⟨behind, rfl, hparts⟩
        obtain ⟨hfill, hlines⟩ := ih.mp hparts
        exact ⟨by rw [hfill, Option.map_some], hlines⟩
      · rintro ⟨hfill, hlines⟩
        obtain ⟨behind, hbehind, hphrase⟩ := Option.map_eq_some_iff.mp hfill
        exact ⟨behind, hphrase, ih.mpr ⟨hbehind, hlines⟩⟩
    | placeholder =>
      rw [piecesOf, mem_candidates_group]
      constructor
      · rintro ⟨part, behind, others, rfl, hpart, hothers, rfl⟩
        obtain ⟨hfill, hlines⟩ := ih.mp hothers
        refine ⟨?_, List.forall_mem_cons.mpr ⟨hpart, hlines⟩⟩
        rw [List.map_cons, NameTemplate.fillTokens, hfill, Option.map_some]
      · rintro ⟨hfill, hlines⟩
        cases parts with
        | nil => cases hfill
        | cons part others =>
          obtain ⟨behind, hbehind, hphrase⟩ := Option.map_eq_some_iff.mp hfill
          obtain ⟨hpart, hothers⟩ := List.forall_mem_cons.mp hlines
          exact ⟨part, behind, others, hphrase, hpart, ih.mpr ⟨hbehind, hothers⟩, rfl⟩

/-! ## Candidates are ordered -/

/-- Of two candidates the first gives more to the first group in which they differ. -/
def Longer (first later : List (List Char)) : Prop :=
  List.Lex (· < ·) (later.map List.length) (first.map List.length)

/-- An earlier candidate gives more to the first place where the two differ. -/
theorem pairwise_greedy {behind : List Char → List (List (List Char))}
    (hbehind : ∀ cs, (behind cs).Pairwise Longer) (cs : List Char) :
    (greedy behind cs).Pairwise Longer := by
  have hempty (cs : List Char) : ((behind cs).map ([] :: ·)).Pairwise Longer :=
    List.pairwise_map.mpr ((hbehind cs).imp fun hlonger => .cons hlonger)
  induction cs with
  | nil => exact hempty []
  | cons c cs ih =>
    rw [greedy, List.pairwise_append]
    refine ⟨?_, hempty (c :: cs), ?_⟩
    · split
      next => exact .nil
      next =>
        refine List.pairwise_map.mpr (ih.imp_of_mem ?_)
        intro first later hfirst hlater hlonger
        obtain ⟨part, _, others, -, -, -, rfl⟩ := mem_greedy.mp hfirst
        obtain ⟨part', _, others', -, -, -, rfl⟩ := mem_greedy.mp hlater
        simp only [Longer, List.map_cons, List.cons_lex_cons_iff] at hlonger
        simp only [Longer, List.modifyHead_cons, List.map_cons, List.cons_lex_cons_iff,
          List.length_cons]
        exact hlonger.imp Nat.succ_lt_succ (And.imp_left (congrArg Nat.succ))
    · -- Every way in which the group takes a character comes before those in which it takes none.
      intro first hfirst later hlater
      split at hfirst
      next => cases hfirst
      next =>
        obtain ⟨shorter, hshorter, rfl⟩ := List.mem_map.mp hfirst
        obtain ⟨part, _, others, -, -, -, rfl⟩ := mem_greedy.mp hshorter
        obtain ⟨others', -, rfl⟩ := List.mem_map.mp hlater
        exact .rel (Nat.succ_pos _)

/-- The candidates are listed from the longest first group on, and among equals by the next. -/
theorem pairwise_candidates (pieces : List Piece) (cs : List Char) :
    (candidates pieces cs).Pairwise Longer := by
  induction pieces generalizing cs with
  | nil => cases cs with
    | nil => exact List.pairwise_singleton _ _
    | cons c cs => exact .nil
  | cons piece pieces ih =>
    cases piece with
    | char c =>
      cases cs with
      | nil => exact .nil
      | cons d cs =>
        rw [candidates]
        split
        next => exact ih cs
        next => exact .nil
    | group => exact pairwise_greedy ih cs

end ScenarioTables.Pattern
