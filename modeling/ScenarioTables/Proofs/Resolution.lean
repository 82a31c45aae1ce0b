import ScenarioTables.Context
import ScenarioTables.Scenario.Call
import ScenarioTables.Script
import ScenarioTables.Proofs.Capitals
import ScenarioTables.Proofs.Matching
import ScenarioTables.Proofs.Registrations

/-!
# Rows that name a scenario and rows that fit it

A row is looked up by the name that it spells before it is held against the template of a scenario.
With one scenario and a row of one cell that fits the template, the two ways can disagree only if
the arguments are made of separators (`Script.assertionsFrom_fitting`): the word characters of the
phrase are those of the literals and of the arguments together, and the name of the scenario has no
more of them than the literals (`Header.exists_name`).

That the name comes first is seen where the argument is a separator
(`Script.not_captures_for_all_phrases`): the row has the name, and the call gives no argument.
-/

set_option autoImplicit false

namespace ScenarioTables

/-! ## Blanks in a text -/

namespace Text

/-- A blank is no word character. -/
theorem isWordChar_of_isBlank {c : Char} (h : isBlank c = true) : isWordChar c = false := by
  have hpoints : ∀ n ∈ List.range' 9 5 ++ List.range' 0x2000 11
      ++ [0x20, 0x85, 0xA0, 0x1680, 0x2028, 0x2029, 0x202F, 0x205F, 0x3000],
      wordBits.testBit n = false := by decide +kernel
  rw [isWordChar_eq]
  refine hpoints c.toNat ?_
  simp only [isBlank, Bool.or_eq_true, Bool.and_eq_true, decide_eq_true_eq, beq_iff_eq] at h
  simp only [List.mem_append, List.mem_range'_1, List.mem_cons, List.not_mem_nil, or_false]
  omega

theorem wordLength_dropWhile (cs : List Char) : wordLength (cs.dropWhile isBlank) = wordLength cs := by
  induction cs with
  | nil => rfl
  | cons c cs ih =>
    rw [List.dropWhile_cons]
    split
    next hblank =>
      have hnot : ¬ isWordChar c = true := Bool.not_eq_true _ ▸ isWordChar_of_isBlank hblank
      rw [ih, wordLength, wordLength, List.filter_cons_of_neg hnot]
    next => rfl

theorem wordLength_reverse (cs : List Char) : wordLength cs.reverse = wordLength cs := by
  induction cs with
  | nil => rfl
  | cons c cs ih =>
    rw [List.reverse_cons, wordLength_append, ih, Nat.add_comm, ← wordLength_append,
      List.singleton_append]

/-- Trimming takes no word characters away. -/
theorem wordLength_trim (cs : List Char) : wordLength (trim cs) = wordLength cs := by
  rw [trim, trimEnd, wordLength_reverse, wordLength_dropWhile, wordLength_reverse, trimStart,
    wordLength_dropWhile]

theorem wordLength_tail (cs : List Char) : wordLength cs.tail ≤ wordLength cs := by
  cases cs with
  | nil => exact Nat.le_refl _
  | cons c cs =>
    have := wordLength_append [c] cs
    rw [List.singleton_append] at this
    rw [List.tail_cons]
    omega

/-- A text has a word character unless the length of these is zero. -/
theorem isWordChar_of_wordLength {cs : List Char} (h : wordLength cs = 0) {c : Char} (hc : c ∈ cs) :
    isWordChar c = false := by
  obtain ⟨before, behind, rfl⟩ := List.append_of_mem hc
  cases hword : isWordChar c with
  | false => rfl
  | true =>
    have hcons : wordLength (c :: behind) = (upperChar c).length + wordLength behind := by
      rw [wordLength, List.filter_cons_of_pos hword]
      rfl
    have hpos := length_upperChar_pos c
    rw [wordLength_append, hcons] at h
    omega

/-- Only the text without characters is the empty text in lower case. -/
theorem eq_empty_of_lowered {s : String} (h : lowered s = "") : s = "" := by
  have hchar (c : Char) : lowerChar c ≠ [] := by
    unfold lowerChar
    split
    next => exact List.cons_ne_nil _ _
    next => split <;> exact List.cons_ne_nil _ _
  have hlower : lower s.toList = [] := String.ofList_injective h
  rw [← String.toList_eq_nil_iff]
  cases hs : s.toList with
  | nil => rfl
  | cons c rest =>
    rw [hs, lower, lowerAfter] at hlower
    have hhere := (List.append_eq_nil_iff.mp hlower).1
    split at hhere
    next => cases hhere
    next => exact absurd hhere (hchar c)

end Text

/-! ## The word characters of a template -/

namespace NameTemplate

open Text

/-- The length in upper case of the word characters that every phrase of some pieces has. -/
def literalLength : List Token → Nat
  | [] => 0
  | .literal text :: rest => wordLength text.toList + literalLength rest
  | .placeholder :: rest => literalLength rest

/-- The word characters of a phrase are those of the literals and of the arguments. -/
theorem wordLength_fillTokens {tokens : List Token} {values : List String} {phrase : String}
    (h : fillTokens tokens values = some phrase) : wordLength phrase.toList
      = literalLength tokens + wordLength (values.flatMap String.toList) := by
  fun_induction fillTokens tokens values generalizing phrase with
  | case1 =>
    cases h
    rfl
  | case2 | case4 => cases h
  | case3 values text tokens ih =>
    obtain ⟨behind, hbehind, rfl⟩ := Option.map_eq_some_iff.mp h
    rw [String.toList_append, wordLength_append, ih hbehind, literalLength, Nat.add_assoc]
  | case5 tokens value values ih =>
    obtain ⟨behind, hbehind, rfl⟩ := Option.map_eq_some_iff.mp h
    rw [String.toList_append, wordLength_append, ih hbehind, literalLength, List.flatMap_cons,
      wordLength_append, Nat.add_left_comm]

/-- Writing blanks for placeholders adds the word characters of the literals only. -/
theorem wordLength_writeBlanks (written : List Char) (tokens : List Token) :
    wordLength (writeBlanks written tokens) ≤ wordLength written + literalLength tokens := by
  fun_induction writeBlanks written tokens with
  | case1 written => exact Nat.le_refl _
  | case2 written text rest ih =>
    rw [wordLength_append, wordLength_reverse] at ih
    rw [literalLength]
    omega
  | case3 written rest ih =>
    have hblank : wordLength (' ' :: written.tail) = wordLength written.tail :=
      wordLength_append [' '] written.tail |>.trans (Nat.zero_add _)
    have htail := wordLength_tail written
    rw [literalLength]
    omega

/-- The name without placeholders has no more word characters than the literals. -/
theorem wordLength_unparameterized (template : NameTemplate) :
    wordLength template.unparameterized.toList ≤ literalLength template.tokens := by
  rw [unparameterized, String.toList_ofList, wordLength_trim, wordLength_reverse]
  exact Nat.le_trans (wordLength_writeBlanks [] template.tokens) (Nat.le_of_eq (Nat.zero_add _))

/-- A blank literal at the front has no word characters. -/
theorem literalLength_dropBlankHead (tokens : List Token) :
    literalLength (dropBlankHead tokens) = literalLength tokens := by
  unfold dropBlankHead
  split
  next text rest =>
    split
    next hblank =>
      have hlength : wordLength text.toList = 0 := by
        rw [← wordLength_trim, hblank]
        rfl
      rw [literalLength, hlength, Nat.zero_add]
    next => rfl
  next => rfl

/-- The literals of an alternating template have the word characters of its fragments. -/
theorem literalLength_alternating (fragments : List String) :
    literalLength (alternating fragments).tokens = wordLength (Cells.joined fragments).toList := by
  have hspace : wordLength " ".toList = 0 := by decide
  have hbehind (fragment : String) (rest : List String) :
      wordLength (Cells.joined (fragment :: rest)).toList = wordLength fragment.toList
        + literalLength (rest.flatMap fun piece => fragmentTokens (" " ++ piece ++ " ")) := by
    induction rest generalizing fragment with
    | nil => rfl
    | cons next rest ih =>
      have hjoined : Cells.joined (fragment :: next :: rest)
          = fragment ++ " " ++ Cells.joined (next :: rest) := rfl
      rw [hjoined, String.toList_append, wordLength_append, String.toList_append,
        wordLength_append, ih next, hspace, List.flatMap_cons, fragmentTokens, List.cons_append,
        literalLength, String.toList_append, wordLength_append, String.toList_append,
        wordLength_append, hspace, Nat.zero_add]
      rfl
  cases fragments with
  | nil => rfl
  | cons fragment rest =>
    rw [alternating, literalLength_dropBlankHead, hbehind, fragmentTokens, List.cons_append,
      literalLength, String.toList_append, wordLength_append, String.toList_ofList, trimStart,
      wordLength_dropWhile, hspace]
    rfl

end NameTemplate

/-! ## Headers -/

namespace Header

/-- The name of a header with placeholders is made from a text that has no more word characters than
the literals of its name cell. -/
theorem exists_name_ofParameterized (nameCell : String) (rest : List String) :
    ∃ text : String, (ofParameterized nameCell rest).name = Identifier.className text
      ∧ Text.wordLength text.toList
        ≤ NameTemplate.literalLength (NameTemplate.parse nameCell).tokens :=
  ⟨_, rfl, NameTemplate.wordLength_unparameterized _⟩

/-- The name of an alternating header is made from a text that has no more word characters than its
fragments. -/
theorem exists_name_ofAlternating (cells : List String) :
    ∃ text : String, (ofAlternating cells).name = Identifier.className text
      ∧ Text.wordLength text.toList
        ≤ NameTemplate.literalLength (NameTemplate.alternating (Cells.fragments cells)).tokens := by
  refine ⟨_, rfl, Nat.le_of_eq ?_⟩
  rw [Cells.spelledName, Text.trimmed, String.toList_ofList, Text.wordLength_trim,
    NameTemplate.literalLength_alternating]

/-- The name of a header is made from a text without more word characters than the literals. -/
theorem exists_name {rows : List (List String)} {header : Header} {template : NameTemplate}
    (hheader : ofRows? rows = .ok header) (htemplate : header.template? = some template) :
    ∃ text : String, header.name = Identifier.className text
      ∧ Text.wordLength text.toList ≤ NameTemplate.literalLength template.tokens := by
  unfold ofRows? ofCells? at hheader
  split at hheader
  next keyword nameCell rest _ =>
    split at hheader
    next =>
      rw [← Except.ok.inj hheader] at htemplate ⊢
      rw [← Option.some.inj htemplate]
      exact exists_name_ofParameterized nameCell rest
    next =>
      rw [← Except.ok.inj hheader] at htemplate ⊢
      unfold template? at htemplate
      split at htemplate
      next hparameterized => cases hparameterized
      next =>
        split at htemplate
        next => cases htemplate
        next =>
          rw [← Option.some.inj htemplate]
          exact exists_name_ofAlternating _
  next => cases hheader

/-- A phrase that fits a header and has its name gives arguments without word characters. -/
theorem isWordChar_of_captures {rows : List (List String)} {header : Header} {phrase : String}
    {captures : List String} (hheader : ofRows? rows = .ok header)
    (hcaptures : header.captures? phrase = some captures)
    (hname : Identifier.className phrase = header.name) :
    ∀ capture ∈ captures, ∀ c ∈ capture.toList, Text.isWordChar c = false := by
  obtain ⟨template, htemplate, hcaptures⟩ := Option.bind_eq_some_iff.mp hcaptures
  obtain ⟨text, htext, hlength⟩ := exists_name hheader htemplate
  have hphrase := NameTemplate.wordLength_fillTokens (NameTemplate.fill_of_captures hcaptures)
  have hsame : Text.wordLength phrase.toList = Text.wordLength text.toList :=
    Text.wordLength_eq (String.ofList_injective (hname.trans htext))
  -- Phrase and name are of one length, and the literals alone are as long as the name.
  have hnone : Text.wordLength (captures.flatMap String.toList) = 0 := by omega
  intro capture hcapture c hc
  exact Text.isWordChar_of_wordLength hnone (List.mem_flatMap.mpr ⟨capture, hcapture, hc⟩)

end Header

/-! ## Rows of one cell -/

/-- A scenario defined in a new document is the only one there. -/
theorem Context.define_sole {tableId : String} {rows : List (List String)} {scenario : Scenario}
    {context : Context} (h : Context.empty.define tableId rows = .ok (scenario, context)) :
    Header.ofRows? rows = .ok scenario.header
      ∧ context.scenarios = (Registry.empty.register scenario.name scenario).2 := by
  unfold Context.define Scenario.ofRows? at h
  cases hheader : Header.ofRows? rows with
  | error fault =>
    rw [hheader] at h
    cases h
  | ok header =>
    rw [hheader] at h
    obtain ⟨rfl, rfl⟩ := Prod.mk.inj (Except.ok.inj h)
    exact ⟨rfl, rfl⟩

/-- A row of one cell that fits the sole scenario invokes it, but without arguments if it has the
scenario's name. -/
theorem Registry.resolve?_sole {scenario : Scenario} {cell : String} {captures : List String}
    (hcaptures : scenario.captures? (Text.trimmed cell) = some captures) :
    (Registry.empty.register scenario.name scenario).2.resolve? [cell]
      = some (scenario,
          if Identifier.className (Text.trimmed cell) = scenario.name then [] else captures) := by
  have hall : (Registry.empty.register scenario.name scenario).2.all = [scenario] :=
    (Registry.represents_empty.register scenario.name scenario).2.all_eq
  have hspelled : Cells.spelledName [cell] = Text.trimmed cell := rfl
  have hphrase : Registry.phraseOf [cell] = Text.trimmed cell := rfl
  rw [Registry.resolve?, hspelled, Registry.find?_register]
  by_cases hname : Identifier.className (Text.trimmed cell) = scenario.name
  · rw [if_pos hname.symm, if_pos hname]
    rfl
  · rw [if_neg (fun h => hname h.symm), if_neg hname, Registry.find?_empty]
    dsimp only
    rw [hphrase, Registry.findPhrase?, hall, List.findSome?_cons, hcaptures]
    rfl

namespace Script

/-- A row of one cell has no keyword but that of a note. -/
theorem Row.ofCells_cell (scenarios : Registry) {cell : String} (hblank : Text.trimmed cell ≠ "")
    (hnote : Text.lowered (Text.trimmed cell) ≠ "note") :
    Row.ofCells scenarios [cell] = Row.ofPlainCells scenarios [cell] := by
  have hkeyword : keywordOf [cell] = Text.lowered (Text.trimmed cell) := rfl
  have hsaid : ¬ (keywordOf [cell] = "" ∨ keywordOf [cell] = "note") := by
    rintro (hempty | hword)
    · exact hblank (Text.eq_empty_of_lowered hempty)
    · exact hnote hword
  have hshort (n : Nat) : ¬ n + 2 ≤ [cell].length := by
    rw [List.length_singleton]
    omega
  rw [Row.ofCells, if_neg hsaid, if_neg (fun h => hshort 1 h.2), if_neg (fun h => hshort 0 h.2),
    if_neg (fun h => hshort 0 h.2)]

section Sole

variable {tableId cell : String} {rows : List (List String)} {scenario : Scenario}
  {context : Context} {captures : List String}

/-- Where one scenario is defined, a row of one cell that fits it expands it. The inputs are bound
to what the phrase gives to the places of the name, unless the phrase has the scenario's name: then
they are left unbound, and what the places take holds no word character. -/
theorem assertionsFrom_fitting
    (hdefine : Context.empty.define tableId rows = .ok (scenario, context))
    (hblank : Text.trimmed cell ≠ "") (hnote : Text.lowered (Text.trimmed cell) ≠ "note")
    (hcaptures : scenario.captures? (Text.trimmed cell) = some captures)
    (assignment : Assignment) (expander : Expander)
    (hscenarios : expander.scenarios = context.scenarios) (row number : Nat)
    (rest : List (List String)) :
    (assertionsFrom assignment expander row number ([cell] :: rest) = do
        let block ← expander.call scenario
          (scenario.bindPositional <|
            if Identifier.className (Text.trimmed cell) = scenario.name then [] else captures)
          (siteOf assignment row)
        let checks ← assertionsFrom assignment expander (row + 1) number rest
        return block ++ checks)
      ∧ (Identifier.className (Text.trimmed cell) = scenario.name →
          ∀ capture ∈ captures, ∀ c ∈ capture.toList, Text.isWordChar c = false) := by
  obtain ⟨hheader, hsole⟩ := Context.define_sole hdefine
  refine ⟨?_, Header.isWordChar_of_captures hheader hcaptures⟩
  have hrow := Row.ofCells_cell expander.scenarios hblank hnote
  rw [Row.ofPlainCells, hscenarios, hsole, Registry.resolve?_sole hcaptures] at hrow
  rw [assertionsFrom, hscenarios, hsole, hrow]

end Sole

/-- A scenario with two places in its name. -/
def adding : Scenario :=
  ⟨"table_0", [["scenario", "add _ to _", "a, b"], ["check", "sum", "@a", "@b"]],
    Header.ofParameterized "add _ to _" ["a, b"]⟩

/-- A phrase with two numbers calls the scenario with these numbers. -/
theorem assertionsFrom_fitting_adding :
    Context.empty.define "table_0" adding.rows
      = .ok (adding, Context.empty.register adding.name adding)
    ∧ ∀ (assignment : Assignment) (expander : Expander),
      expander.scenarios = (Context.empty.register adding.name adding).scenarios →
      ∀ (row number : Nat) (rest : List (List String)),
        assertionsFrom assignment expander row number ([" add 1 to 2 "] :: rest) = do
          let block ← expander.call adding (Binding.positional ["a", "b"] ["1", "2"])
            (siteOf assignment row)
          let checks ← assertionsFrom assignment expander (row + 1) number rest
          return block ++ checks := by
  have hdefine : Context.empty.define "table_0" adding.rows
      = .ok (adding, Context.empty.register adding.name adding) := rfl
  have hcaptures : adding.captures? (Text.trimmed " add 1 to 2 ") = some ["1", "2"] := by
    decide +kernel
  have hname : Identifier.className (Text.trimmed " add 1 to 2 ") ≠ adding.name := by
    decide +kernel
  have hinputs : adding.header.inputs = ["a", "b"] := by decide +kernel
  refine ⟨hdefine, ?_⟩
  intro assignment expander hscenarios row number rest
  have hcall := (assertionsFrom_fitting hdefine (by decide +kernel) (by decide +kernel) hcaptures
    assignment expander hscenarios row number rest).1
  rw [if_neg hname, Scenario.bindPositional, hinputs] at hcall
  exact hcall

/-- A scenario with one place in its name. -/
def saying : Scenario :=
  ⟨"table_0", [["scenario", "say _", "x"], ["echo", "@x"]], Header.ofParameterized "say _" ["x"]⟩

/-- What a place takes is not always bound: `say !` has the name of `say _`. -/
theorem not_captures_for_all_phrases :
    ¬ ∀ (tableId cell : String) (rows : List (List String)) (scenario : Scenario)
      (context : Context) (captures : List String),
      Context.empty.define tableId rows = .ok (scenario, context) →
      Text.trimmed cell ≠ "" → Text.lowered (Text.trimmed cell) ≠ "note" →
      scenario.captures? (Text.trimmed cell) = some captures →
      ∀ (assignment : Assignment) (expander : Expander),
        expander.scenarios = context.scenarios →
        ∀ (row number : Nat) (rest : List (List String)),
          assertionsFrom assignment expander row number ([cell] :: rest) = do
            let block ← expander.call scenario (scenario.bindPositional captures)
              (siteOf assignment row)
            let checks ← assertionsFrom assignment expander (row + 1) number rest
            return block ++ checks := by
  intro h
  let context := Context.empty.register saying.name saying
  have hrow := h "table_0" "say !" saying.rows saying context ["!"] rfl (by decide +kernel)
    (by decide +kernel) (by decide +kernel)
    ⟨kindName, ⟨0, []⟩, [["script"], ["say !"]], "table_1", none, []⟩
    ⟨context.scenarios, Scenario.call ⟨factory, kindName, context.scenarios⟩ 1⟩ rfl 1 0 []
  -- Without a value `@x` stays in the request; with it the request would hold `!`.
  have hasked := congrArg (fun build => (build Board.empty).1.toOption.map
    fun checks => checks.map fun check => check.instruction) hrow
  revert hasked
  decide +kernel

end Script

end ScenarioTables
