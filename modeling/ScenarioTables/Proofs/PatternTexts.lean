import ScenarioTables.Proofs.Patterns
import ScenarioTables.Proofs.Places

/-!
# What a pattern text tells of its template

A pattern text is the characters of the literals, escaped, and a group for each place, with nothing
between two pieces to tell where the one ends. So it cannot tell how a text was divided into
literals. It tells everything else: two templates have one pattern exactly if their pieces are the
same when adjacent literals are merged and empty ones dropped (`merged`, `pattern_eq_iff_merged`).

The pattern text is read back character by character (`Pattern.read?`), and merging is what putting
the characters together again comes to (`merged_eq_ofPieces`). A cell has only one pattern, and no
other cell has it (`pattern_parse_inj`), since the pieces of a cell are merged already.
-/

set_option autoImplicit false

namespace ScenarioTables

/-! ## The text of a pattern's pieces -/

namespace Pattern

/-- The text of a piece in a pattern. -/
def Piece.text : Piece → List Char
  | .char c => if NameTemplate.isSpecial c then ['\\', c] else [c]
  | .group => NameTemplate.group

/-- The text of a pattern is that of its pieces. -/
theorem flatMap_text_piecesOf (tokens : List Token) :
    (piecesOf tokens).flatMap Piece.text = tokens.flatMap NameTemplate.tokenPattern := by
  induction tokens with
  | nil => rfl
  | cons token tokens ih =>
    cases token with
    | literal text =>
      rw [piecesOf, List.flatMap_append, List.flatMap_map, ih]
      rfl
    | placeholder =>
      rw [piecesOf, List.flatMap_cons, ih]
      rfl

/-- Templates have one pattern text if it has the same pieces. -/
theorem pattern_eq_iff {template other : NameTemplate} :
    template.pattern = other.pattern ↔ piecesOf template.tokens = piecesOf other.tokens := by
  constructor
  · intro h
    have hread := read?_pattern template
    rw [h, read?_pattern] at hread
    exact (Option.some.inj hread).symm
  · intro h
    rw [NameTemplate.pattern, ← flatMap_text_piecesOf, h, flatMap_text_piecesOf]
    rfl

end Pattern

/-! ## Merging literals -/

namespace NameTemplate

open Pattern

/-- Puts a text in front of some pieces: into the literal that they begin with, or as a literal of
its own, unless it is empty. -/
def prepend (text : String) : List Token → List Token
  | .literal behind :: later => .literal (text ++ behind) :: later
  | tokens => if text = "" then tokens else .literal text :: tokens

/-- The pieces with adjacent literals merged and empty ones dropped. -/
def merged : List Token → List Token
  | [] => []
  | .literal text :: rest => prepend text (merged rest)
  | .placeholder :: rest => .placeholder :: merged rest

/-- **Merged pieces**: no literal is empty, and no two literals stand next to each other. -/
structure IsMerged (tokens : List Token) : Prop where
  nonempty : .literal "" ∉ tokens
  apart : tokens.IsChain fun first second => first = .placeholder ∨ second = .placeholder

theorem isMerged_nil : IsMerged [] :=
  ⟨List.not_mem_nil, List.isChain_nil⟩

theorem isMerged_cons_iff {token : Token} {tokens : List Token} : IsMerged (token :: tokens)
    ↔ token ≠ .literal "" ∧ (∀ next ∈ tokens.head?, token = .placeholder ∨ next = .placeholder)
      ∧ IsMerged tokens := by
  constructor
  · rintro ⟨hnonempty, hapart⟩
    rw [List.mem_cons, not_or] at hnonempty
    rw [List.isChain_cons] at hapart
    exact ⟨Ne.symm hnonempty.1, hapart.1, hnonempty.2, hapart.2⟩
  · rintro ⟨hfirst, hnext, hnonempty, hapart⟩
    exact ⟨List.not_mem_cons_of_ne_of_not_mem hfirst.symm hnonempty,
      List.isChain_cons.mpr ⟨hnext, hapart⟩⟩

/-! ### Putting a text in front -/

section Prepend

variable {text : String} {tokens : List Token}

theorem prepend_empty (tokens : List Token) : prepend "" tokens = tokens := by
  unfold prepend
  split <;> simp

theorem prepend_of_ne (htext : text ≠ "") (h : ∀ next ∈ tokens.head?, next = .placeholder) :
    prepend text tokens = .literal text :: tokens := by
  unfold prepend
  split
  next => exact absurd (h _ rfl) (by simp)
  next => exact if_neg htext

/-- A text goes into a literal, is nothing, or becomes a literal of its own. -/
theorem prepend_cases (text : String) (tokens : List Token) :
    (∃ behind later, tokens = .literal behind :: later)
      ∨ text = "" ∨ text ≠ "" ∧ ∀ next ∈ tokens.head?, next = .placeholder := by
  by_cases hempty : text = ""
  · exact .inr (.inl hempty)
  · cases tokens with
    | nil => exact .inr (.inr ⟨hempty, by simp⟩)
    | cons token later =>
      cases token with
      | literal behind => exact .inl ⟨behind, later, rfl⟩
      | placeholder => exact .inr (.inr ⟨hempty, by simp⟩)

/-- A text in front adds its characters to the pieces. -/
theorem piecesOf_prepend (text : String) (tokens : List Token) :
    piecesOf (prepend text tokens) = text.toList.map .char ++ piecesOf tokens := by
  rcases prepend_cases text tokens with ⟨behind, later, rfl⟩ | rfl | ⟨htext, hnext⟩
  · simp [prepend, piecesOf]
  · rw [prepend_empty]
    rfl
  · rw [prepend_of_ne htext hnext]
    rfl

theorem prepend_append (text behind : String) (tokens : List Token) :
    prepend (text ++ behind) tokens = prepend text (prepend behind tokens) := by
  rcases prepend_cases behind tokens with ⟨next, later, rfl⟩ | rfl | ⟨hbehind, hnext⟩
  · simp [prepend, String.append_assoc]
  · rw [prepend_empty, String.append_empty]
  · have hboth : text ++ behind ≠ "" := by simp [hbehind]
    rw [prepend_of_ne hbehind hnext, prepend_of_ne hboth hnext]
    rfl

/-- Merged tokens with a text in front are merged. -/
theorem isMerged_prepend (text : String) (h : IsMerged tokens) : IsMerged (prepend text tokens) := by
  rcases prepend_cases text tokens with ⟨behind, later, rfl⟩ | rfl | ⟨htext, hnext⟩
  · obtain ⟨hbehind, hnext, hlater⟩ := isMerged_cons_iff.mp h
    have hboth : text ++ behind ≠ "" := by
      simp only [ne_eq, Token.literal.injEq] at hbehind
      simp [hbehind]
    refine isMerged_cons_iff.mpr ⟨by simpa using hboth, fun next hmem => .inr ?_, hlater⟩
    simpa using hnext next hmem
  · rwa [prepend_empty]
  · rw [prepend_of_ne htext hnext]
    exact isMerged_cons_iff.mpr ⟨by simpa using htext, fun next hmem => .inr (hnext next hmem), h⟩

end Prepend

/-! ### Merging -/

/-- Merging keeps every character and every place. -/
theorem piecesOf_merged (tokens : List Token) : piecesOf (merged tokens) = piecesOf tokens := by
  fun_induction merged tokens with
  | case1 => rfl
  | case2 text rest ih => rw [piecesOf_prepend, ih]; rfl
  | case3 rest ih => rw [piecesOf, ih]; rfl

/-- Merging leaves no empty and no adjacent literals. -/
theorem isMerged_merged (tokens : List Token) : IsMerged (merged tokens) := by
  fun_induction merged tokens with
  | case1 => exact isMerged_nil
  | case2 text rest ih => exact isMerged_prepend text ih
  | case3 rest ih => exact isMerged_cons_iff.mpr ⟨by simp, fun _ _ => .inl rfl, ih⟩

/-- Merged pieces stay as they are. -/
theorem merged_eq_self {tokens : List Token} (h : IsMerged tokens) : merged tokens = tokens := by
  fun_induction merged tokens with
  | case1 => rfl
  | case2 text rest ih =>
    obtain ⟨hnonempty, hnext, hrest⟩ := isMerged_cons_iff.mp h
    rw [ih hrest]
    exact prepend_of_ne (by simpa using hnonempty) fun next hmem => by simpa using hnext next hmem
  | case3 rest ih => rw [ih (isMerged_cons_iff.mp h).2.2]

/-- The merged pieces of a template whose pattern has the given pieces. -/
def ofPieces : List Piece → List Token
  | [] => []
  | .char c :: rest => prepend (String.singleton c) (ofPieces rest)
  | .group :: rest => .placeholder :: ofPieces rest

/-- Characters in front become a text in front. -/
theorem ofPieces_chars (text : List Char) (pieces : List Piece) :
    ofPieces (text.map .char ++ pieces) = prepend (String.ofList text) (ofPieces pieces) := by
  induction text with
  | nil => exact (prepend_empty _).symm
  | cons c text ih =>
    have htext : String.ofList (c :: text) = String.singleton c ++ String.ofList text := by
      simp
    rw [List.map_cons, List.cons_append, ofPieces, ih, ← prepend_append, htext]

/-- Merging puts the characters of a pattern together again. -/
theorem merged_eq_ofPieces (tokens : List Token) : merged tokens = ofPieces (piecesOf tokens) := by
  fun_induction merged tokens with
  | case1 => rfl
  | case2 text rest ih => rw [piecesOf, ofPieces_chars, String.ofList_toList, ih]
  | case3 rest ih => rw [piecesOf, ofPieces, ih]

/-- Tokens are merged alike exactly if their pieces are the same. -/
theorem merged_eq_merged_iff {tokens others : List Token} :
    merged tokens = merged others ↔ piecesOf tokens = piecesOf others := by
  constructor
  · intro h
    rw [← piecesOf_merged tokens, h, piecesOf_merged]
  · intro h
    rw [merged_eq_ofPieces, h, merged_eq_ofPieces]

/-- The merged pieces of a template are the only merged pieces with its pattern. -/
theorem eq_merged_iff {template : NameTemplate} {tokens : List Token} :
    tokens = merged template.tokens
      ↔ IsMerged tokens ∧ (NameTemplate.mk tokens).pattern = template.pattern := by
  constructor
  · rintro rfl
    exact ⟨isMerged_merged _, pattern_eq_iff.mpr (piecesOf_merged _)⟩
  · rintro ⟨hmerged, hpattern⟩
    rw [← merged_eq_self hmerged]
    exact merged_eq_merged_iff.mpr (pattern_eq_iff.mp hpattern)

/-- **The pattern text determines the template**, up to merging literals. Two templates have one
pattern exactly if they have the same merged pieces. Read back, a pattern has the characters of the
literals and a group for each place: no character of a literal is read as a part of a group or as an
anchor. -/
theorem pattern_eq_iff_merged (template other : NameTemplate) :
    (template.pattern = other.pattern ↔ merged template.tokens = merged other.tokens)
      ∧ Pattern.read? template.pattern.toList = some (piecesOf template.tokens) :=
  ⟨pattern_eq_iff.trans merged_eq_merged_iff.symm, read?_pattern template⟩

/-- The pieces of a cell are merged. -/
theorem isMerged_parse (raw : String) : IsMerged (parse raw).tokens where
  nonempty := literal_empty_not_mem_scan none [] raw.toList
  apart := by
    have hturns := @isChain_scan none [] raw.toList fun _ _ hc => nomatch hc
    refine hturns.imp fun first second h => ?_
    by_cases hfirst : first = .placeholder
    · exact .inl hfirst
    · exact .inr (not_not.mp (mt h.mpr hfirst))

/-- **No two name cells have one pattern.** -/
theorem pattern_parse_inj {raw other : String} :
    (parse raw).pattern = (parse other).pattern ↔ raw = other := by
  refine ⟨fun h => ?_, congrArg fun cell => (parse cell).pattern⟩
  have htokens : (parse raw).tokens = merged (parse other).tokens :=
    eq_merged_iff.mpr ⟨isMerged_parse raw, h⟩
  have hwritten := congrArg written (htokens.trans (merged_eq_self (isMerged_parse other)))
  rw [parse, parse, written_scan, written_scan] at hwritten
  exact String.toList_inj.mp hwritten

end NameTemplate

end ScenarioTables
