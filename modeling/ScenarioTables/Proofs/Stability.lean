import Mathlib.Data.List.TakeWhile
import ScenarioTables.Proofs.Declarations
import ScenarioTables.Proofs.Spelling

/-!
# Identifiers of identifiers

An identifier is made of words, but it is not always one word. Where the first letter of a word
frays, a change of its case brings in a mark, which ends words, and the identifier of the identifier
is another one: the class-style name of `ǰump` is `J̌ump`, and that of `J̌ump` is `JUmp`.

The identifiers that are their own identifiers are the qualified ones and those of word characters
only. So a name keeps itself unless a word of the text it was made from begins with a letter that
frays, or in method style the first word with `İ` (`Identifier.names_stable`). The scenario of a
header whose name keeps itself is found by a row that holds just this name, and an input that is
declared by a name that keeps itself has this name.
-/

set_option autoImplicit false

namespace ScenarioTables

/-! ## Words of word characters -/

namespace Text

/-- Words have word characters only. -/
theorem isWordChar_of_mem_words {cs word : List Char} {c : Char} (hword : word ∈ words cs)
    (hc : c ∈ word) : isWordChar c = true := by
  rw [← Bool.not_eq_false]
  exact fun hends => not_mem_of_mem_words hends hword hc

/-- A text of word characters is one word. -/
theorem words_eq_singleton {cs : List Char} (hne : cs ≠ []) (h : ∀ c ∈ cs, isWordChar c = true) :
    words cs = [cs] := by
  have hpieces : cs.splitOnP (!isWordChar ·) = [cs] := by
    refine List.splitOnP_eq_singleton fun c hc => ?_
    rw [h c hc]
    rfl
  rw [words, hpieces]
  cases cs with
  | nil => exact absurd rfl hne
  | cons c cs => rfl

/-- A text that begins with a word character begins with a word. -/
theorem words_cons {c : Char} (hc : isWordChar c = true) (cs : List Char) :
    words (c :: cs) = (c :: cs.takeWhile isWordChar) :: words (cs.dropWhile isWordChar) := by
  have hfirst : words (c :: cs.takeWhile isWordChar) = [c :: cs.takeWhile isWordChar] := by
    refine words_eq_singleton (List.cons_ne_nil _ _) fun d hd => ?_
    rcases List.mem_cons.mp hd with rfl | hd
    · exact hc
    · exact List.mem_takeWhile_imp hd
  have hsplit := @List.takeWhile_append_dropWhile _ isWordChar cs
  cases hrest : cs.dropWhile isWordChar with
  | nil =>
    rw [hrest, List.append_nil] at hsplit
    rw [hsplit] at hfirst ⊢
    exact hfirst
  | cons d rest =>
    have hends : isWordChar d = false := by
      have hhead := List.head?_dropWhile_not isWordChar cs
      rw [hrest] at hhead
      simpa using hhead
    have hwords := words_append_separator hends (c :: cs.takeWhile isWordChar) rest
    rw [hfirst, ← words_cons_separator hends rest, List.cons_append, ← hrest, hsplit] at hwords
    rw [hwords, hrest]
    rfl

/-- A text of word characters has no blanks at its ends. -/
theorem trim_of_isWordChar {cs : List Char} (h : ∀ c ∈ cs, isWordChar c = true) : trim cs = cs := by
  have hblank : ∀ c ∈ cs, isBlank c = false := by
    intro c hc
    rw [← Bool.not_eq_true]
    intro hblank
    have hends := isWordChar_of_isBlank hblank
    rw [h c hc] at hends
    cases hends
  exact trim_eq_self_iff.mpr ⟨fun c hc => hblank c (List.mem_of_mem_head? hc),
    fun c hc => hblank c (List.mem_of_mem_getLast? hc)⟩

/-- A text has no more word characters than characters in upper case. -/
theorem wordLength_le_capitalLength (cs : List Char) : wordLength cs ≤ capitalLength cs := by
  induction cs with
  | nil => exact Nat.le_refl _
  | cons c cs ih =>
    rw [wordLength, List.filter_cons]
    split
    next => exact Nat.add_le_add_left ih _
    next => exact Nat.le_trans ih (Nat.le_add_left _ _)

/-- A text that is as long in upper case as its word characters has no other characters. -/
theorem isWordChar_of_capitalLength {cs : List Char} (h : capitalLength cs = wordLength cs) :
    ∀ c ∈ cs, isWordChar c = true := by
  intro c hc
  obtain ⟨before, behind, rfl⟩ := List.append_of_mem hc
  have hbefore := wordLength_le_capitalLength before
  have hbehind := wordLength_le_capitalLength behind
  have hpos := length_upperChar_pos c
  rw [capitalLength_append, wordLength_append, capitalLength] at h
  by_cases hword : isWordChar c = true
  · exact hword
  · have hcons : wordLength (c :: behind) = wordLength behind := by
      rw [wordLength, List.filter_cons_of_neg hword]
      rfl
    omega

/-- A text that comes back from its capitalised words has word characters only. -/
theorem isWordChar_of_flatMap_capitalize {cs : List Char}
    (h : (words cs).flatMap Identifier.capitalize = cs) : ∀ c ∈ cs, isWordChar c = true := by
  refine isWordChar_of_capitalLength ?_
  have hlength := capitalLength_flatMap_capitalize (words cs)
  rwa [h, flatten_words] at hlength

end Text

/-! ## The characters of identifiers -/

namespace Identifier

open Text

/-- A word in upper case has word characters only unless its first letter frays. -/
theorem isWordChar_capitalize_iff {word : List Char} (h : ∀ c ∈ word, isWordChar c = true) :
    (∀ d ∈ capitalize word, isWordChar d = true) ↔ ∀ c ∈ word.head?, c.toNat ∉ fraying := by
  cases word with
  | nil => exact iff_of_true nofun nofun
  | cons first rest =>
    obtain ⟨hfirst, hrest⟩ := List.forall_mem_cons.mp h
    constructor
    · rintro hall c ⟨⟩ hfrays
      obtain ⟨d, hd, hends⟩ := exists_of_mem_fraying hfrays
      have hword := hall d (List.mem_append_left rest hd)
      rw [hends] at hword
      cases hword
    · intro hkeeps d hd
      rcases List.mem_append.mp hd with hupper | hd
      · exact isWordChar_of_mem_upperChar hfirst (hkeeps first rfl) hupper
      · exact hrest d hd

/-- A word in lower case has word characters only unless it begins with the capital I with a dot. -/
theorem isWordChar_uncapitalize_iff {word : List Char} (h : ∀ c ∈ word, isWordChar c = true) :
    (∀ d ∈ uncapitalize word, isWordChar d = true) ↔ ∀ c ∈ word.head?, c.toNat ≠ 0x130 := by
  cases word with
  | nil => exact iff_of_true nofun nofun
  | cons first rest =>
    obtain ⟨hfirst, hrest⟩ := List.forall_mem_cons.mp h
    constructor
    · rintro hall c ⟨⟩ hdotted
      have hmark : Char.ofNat 0x307 ∈ uncapitalize (first :: rest) := by
        rw [uncapitalize, lowerChar_dotted hdotted]
        exact List.mem_cons_of_mem _ List.mem_cons_self
      exact absurd (hall _ hmark) (by decide +kernel)
    · intro hne d hd
      rcases List.mem_append.mp hd with hlower | hd
      · exact isWordChar_of_mem_lowerChar hfirst (hne first rfl) hlower
      · exact hrest d hd

/-- Capitalized words stay words exactly if none begins with a fraying letter. -/
theorem isWordChar_flatMap_capitalize_iff {words : List (List Char)}
    (h : ∀ word ∈ words, ∀ c ∈ word, isWordChar c = true) :
    (∀ d ∈ words.flatMap capitalize, isWordChar d = true)
      ↔ ∀ word ∈ words, ∀ c ∈ word.head?, c.toNat ∉ fraying := by
  constructor
  · intro hall word hword
    refine (isWordChar_capitalize_iff (h word hword)).mp fun d hd => hall d ?_
    exact List.mem_flatMap.mpr ⟨word, hword, hd⟩
  · intro hkeeps d hd
    obtain ⟨word, hword, hd⟩ := List.mem_flatMap.mp hd
    exact (isWordChar_capitalize_iff (h word hword)).mpr (hkeeps word hword) d hd

/-- A class-style name is one word exactly if no word of the text begins with a fraying letter. -/
theorem isWordChar_classStyle_iff {cs : List Char} (h : isQualified cs = false) :
    (∀ d ∈ classStyle cs, isWordChar d = true)
      ↔ ∀ word ∈ words cs, ∀ c ∈ word.head?, c.toNat ∉ fraying := by
  rw [classStyle, h]
  exact isWordChar_flatMap_capitalize_iff fun word hword c => isWordChar_of_mem_words hword

/-- The first word begins with a small letter and the others with capitals. -/
theorem methodStyle_of_words {cs word : List Char} {later : List (List Char)}
    (h : words cs = word :: later) :
    methodStyle cs = uncapitalize word ++ later.flatMap capitalize := by
  rw [methodStyle, h]

/-- A method-style name is one word exactly if the first word does not begin with the dotted
capital, nor a later one with a fraying letter. -/
theorem isWordChar_methodStyle_iff (cs : List Char) :
    (∀ d ∈ methodStyle cs, isWordChar d = true)
      ↔ (∀ word ∈ (words cs).head?, ∀ c ∈ word.head?, c.toNat ≠ 0x130)
        ∧ ∀ word ∈ (words cs).tail, ∀ c ∈ word.head?, c.toNat ∉ fraying := by
  have hall : ∀ word ∈ words cs, ∀ c ∈ word, isWordChar c = true :=
    fun word hword c => isWordChar_of_mem_words hword
  cases hwords : words cs with
  | nil =>
    simp [methodStyle, hwords]
  | cons first later =>
    rw [hwords] at hall
    obtain ⟨hfirst, hlater⟩ := List.forall_mem_cons.mp hall
    rw [methodStyle_of_words hwords, List.forall_mem_append, isWordChar_uncapitalize_iff hfirst,
      isWordChar_flatMap_capitalize_iff hlater, List.tail_cons, List.head?_cons]
    simp only [Option.mem_some_iff, forall_eq']

/-! ## Identifiers that are their own -/

/-- A class-style identifier begins with a character in upper case. -/
theorem upperChar_head {words : List (List Char)} {d : Char} {rest : List Char}
    (hwords : ∀ word ∈ words, word ≠ []) (h : words.flatMap capitalize = d :: rest) :
    upperChar d = [d] := by
  cases words with
  | nil => cases h
  | cons word words =>
    obtain ⟨c, tail, rfl⟩ := List.exists_cons_of_ne_nil (hwords word List.mem_cons_self)
    obtain ⟨first, others, hupper⟩ :=
      List.exists_cons_of_ne_nil (List.ne_nil_of_length_pos (length_upperChar_pos c))
    rw [List.flatMap_cons, capitalize, hupper] at h
    have hfirst : first = d := (List.cons.inj h).1
    exact upperChar_of_mem (hfirst ▸ hupper ▸ List.mem_cons_self)

/-- **A class-style identifier made of words is its own identifier just if it has word characters
only.** -/
theorem classStyle_classStyle_iff {cs : List Char} (h : isQualified cs = false) :
    classStyle (classStyle cs) = classStyle cs ↔ ∀ d ∈ classStyle cs, isWordChar d = true := by
  have hmade : classStyle cs = (words cs).flatMap capitalize := by rw [classStyle, h]; rfl
  have hagain : classStyle (classStyle cs) = (words (classStyle cs)).flatMap capitalize := by
    rw [classStyle, isQualified_classStyle h]
    rfl
  rw [hagain]
  constructor
  · exact isWordChar_of_flatMap_capitalize
  · intro hall
    cases hname : classStyle cs with
    | nil => rfl
    | cons d rest =>
      rw [hname] at hall
      rw [words_eq_singleton (List.cons_ne_nil d rest) hall, List.flatMap_singleton, capitalize,
        upperChar_head (fun word => ne_nil_of_mem_words) (hmade.symm.trans hname)]
      rfl

/-- A method-style identifier begins with a word character in lower case. -/
theorem lowerChar_head {cs : List Char} {d : Char} {rest : List Char}
    (h : methodStyle cs = d :: rest) : isWordChar d = true ∧ lowerChar d = [d] := by
  cases hwords : words cs with
  | nil =>
    rw [methodStyle, hwords] at h
    cases h
  | cons word words =>
    have hmem : word ∈ Text.words cs := hwords ▸ List.mem_cons_self
    obtain ⟨c, tail, rfl⟩ := List.exists_cons_of_ne_nil (ne_nil_of_mem_words hmem)
    have hc := isWordChar_of_mem_words hmem List.mem_cons_self
    rw [methodStyle_of_words hwords] at h
    by_cases hdotted : c.toNat = 0x130
    · rw [uncapitalize, lowerChar_dotted hdotted] at h
      rw [← (List.cons.inj h).1]
      decide +kernel
    · have hlower := lowerChar_of_ne hdotted
      rw [uncapitalize, hlower] at h
      have hd : d ∈ lowerChar c := by
        rw [hlower, (List.cons.inj h).1]
        exact List.mem_cons_self
      exact ⟨isWordChar_of_mem_lowerChar hc hdotted hd, lowerChar_of_mem hd⟩

/-- **A method-style identifier is its own identifier just if it has word characters only.** -/
theorem methodStyle_methodStyle_iff (cs : List Char) :
    methodStyle (methodStyle cs) = methodStyle cs
      ↔ ∀ d ∈ methodStyle cs, isWordChar d = true := by
  cases hname : methodStyle cs with
  | nil => exact iff_of_true rfl nofun
  | cons d rest =>
    obtain ⟨hd, hlower⟩ := lowerChar_head hname
    have hagain : methodStyle (d :: rest) = d :: (rest.takeWhile isWordChar
        ++ (words (rest.dropWhile isWordChar)).flatMap capitalize) := by
      rw [methodStyle_of_words (words_cons hd rest), uncapitalize, hlower]
      rfl
    rw [hagain]
    constructor
    · intro hsame c hc
      -- What stands behind the first word comes back from its capitalised words.
      have hsplit := @List.takeWhile_append_dropWhile _ isWordChar rest
      have hbehind := List.append_cancel_left ((List.cons.inj hsame).2.trans hsplit.symm)
      rcases List.mem_cons.mp hc with rfl | hc
      · exact hd
      · rw [← hsplit] at hc
        rcases List.mem_append.mp hc with hfirst | hlater
        · exact List.mem_takeWhile_imp hfirst
        · exact isWordChar_of_flatMap_capitalize hbehind c hlater
    · intro hall
      have hrest := (List.forall_mem_cons.mp hall).2
      rw [List.takeWhile_eq_self_iff.mpr hrest, List.dropWhile_eq_nil_iff.mpr hrest]
      exact congrArg (List.cons d) (List.append_nil rest)

section Names

variable {text : String}

/-- A qualified name is its own class name. -/
theorem className_of_isQualified (h : isQualified text.toList = true) : className text = text := by
  rw [className, classStyle, if_pos h, String.ofList_toList]

/-- A class-style name keeps itself exactly if it is one word. -/
theorem className_className_iff (h : isQualified text.toList = false) :
    className (className text) = className text
      ↔ ∀ d ∈ (className text).toList, isWordChar d = true := by
  rw [className, className, String.toList_ofList, String.ofList_inj]
  exact classStyle_classStyle_iff h

/-- A method-style name keeps itself exactly if it is one word. -/
theorem methodName_methodName_iff : methodName (methodName text) = methodName text
    ↔ ∀ d ∈ (methodName text).toList, isWordChar d = true := by
  rw [methodName, methodName, String.toList_ofList, String.ofList_inj]
  exact methodStyle_methodStyle_iff text.toList

end Names

end Identifier

/-! ## Scenarios and inputs under their own names -/

/-- The name of a header is made from a text without blanks at its ends. -/
theorem Header.exists_name_trimmed {rows : List (List String)} {header : Header}
    (h : ofRows? rows = .ok header) :
    ∃ text, Text.trimmed text = text ∧ header.name = Identifier.className text := by
  have htrim (cs : List Char) : Text.trimmed (String.ofList (Text.trim cs))
      = String.ofList (Text.trim cs) := by
    rw [Text.trimmed, String.toList_ofList, Text.trim_eq_self_iff.mpr (Text.bounded_trim cs)]
  unfold ofRows? ofCells? at h
  split at h
  next =>
    split at h
    next => exact ⟨_, htrim _, (congrArg Header.name (Except.ok.inj h)).symm⟩
    next => exact ⟨_, htrim _, (congrArg Header.name (Except.ok.inj h)).symm⟩
  next => cases h

/-- The name of a header that keeps itself has no blanks at its ends. -/
theorem Header.trimmed_name {rows : List (List String)} {header : Header}
    (h : ofRows? rows = .ok header) (hname : Identifier.className header.name = header.name) :
    Text.trimmed header.name = header.name := by
  obtain ⟨text, htext, hmade⟩ := exists_name_trimmed h
  cases hqualified : Identifier.isQualified text.toList with
  | true => rw [hmade, Identifier.className_of_isQualified hqualified, htext]
  | false =>
    rw [hmade, Identifier.className_className_iff hqualified] at hname
    rw [hmade, Text.trimmed, Text.trim_of_isWordChar hname, String.ofList_toList]

/-- A row that holds a name that keeps itself invokes the scenario of this name. -/
theorem Registry.resolve?_name {registry : Registry} {name : String} {scenario : Scenario}
    (htrim : Text.trimmed name = name) (hname : Identifier.className name = name)
    (h : registry.find? name = some scenario) :
    registry.resolve? [name] = some (scenario, []) := by
  have hspelled : Cells.spelledName [name] = name := htrim
  rw [resolve?, hspelled, hname, h]
  rfl

/-- A name that keeps itself declares the input of this name. -/
theorem Argument.ofText_methodName {text : String}
    (h : Identifier.methodName (Identifier.methodName text) = Identifier.methodName text) :
    ofText (Identifier.methodName text) = .input (Identifier.methodName text) := by
  have hwords := Identifier.methodName_methodName_iff.mp h
  have hmark : (Text.trim (Identifier.methodName text).toList).getLast? ≠ some '?' := by
    rw [Text.trim_of_isWordChar hwords]
    intro hlast
    exact absurd (hwords '?' (List.mem_of_mem_getLast? hlast)) (by decide)
  rw [ofText_input hmark, h]

namespace Identifier

open Text

/-- **Which names keep themselves.** The class-style name of a text is its own class-style name just
if the text is qualified or no word of it begins with a letter that frays. The method-style name is
its own just if the first word does not begin with the capital I with a dot and no later word begins
with a letter that frays. A header's name that keeps itself finds the scenario that is registered
under it, and a method-style name that keeps itself declares the input of that name. -/
theorem names_stable (text : String) :
    (className (className text) = className text
        ↔ isQualified text.toList = true
          ∨ ∀ word ∈ words text.toList, ∀ c ∈ word.head?, c.toNat ∉ fraying)
      ∧ (methodName (methodName text) = methodName text
        ↔ (∀ word ∈ (words text.toList).head?, ∀ c ∈ word.head?, c.toNat ≠ 0x130)
          ∧ ∀ word ∈ (words text.toList).tail, ∀ c ∈ word.head?, c.toNat ∉ fraying)
      ∧ (∀ rows header, Header.ofRows? rows = .ok header → className header.name = header.name →
          ∀ (registry : Registry) (scenario : Scenario),
            registry.find? header.name = some scenario →
              registry.resolve? [header.name] = some (scenario, []))
      ∧ (methodName (methodName text) = methodName text →
          Argument.ofText (methodName text) = .input (methodName text)) := by
  refine ⟨?_, ?_, fun rows header hheader hname registry scenario => ?_,
    Argument.ofText_methodName⟩
  · cases hqualified : isQualified text.toList with
    | true =>
      rw [className_of_isQualified hqualified]
      exact iff_of_true (className_of_isQualified hqualified) (.inl rfl)
    | false =>
      rw [className_className_iff hqualified, className, String.toList_ofList,
        isWordChar_classStyle_iff hqualified, or_iff_right Bool.false_ne_true]
  · rw [methodName_methodName_iff, methodName, String.toList_ofList, isWordChar_methodStyle_iff]
  · exact Registry.resolve?_name (Header.trimmed_name hheader hname) hname

/-- A scenario whose second word begins with a letter that becomes two in upper case. -/
def sharp : Scenario :=
  ⟨"table_0", [["scenario", "say ßo"], ["say", "so"]], .ofAlternating ["say ßo"]⟩

/-- Two letters in upper case are no marks, so the names keep themselves and the scenario is found
by its own. -/
theorem names_stable_sharp :
    className (className "say ßo") = className "say ßo"
      ∧ methodName (methodName "say ßo") = methodName "say ßo"
      ∧ (Registry.empty.register "SaySSo" sharp).2.resolve? ["SaySSo"] = some (sharp, [])
      ∧ Argument.ofText "saySSo" = .input "saySSo" := by
  obtain ⟨hclass, hmethod, hfound, hinput⟩ := names_stable "say ßo"
  have hname : sharp.header.name = "SaySSo" := by decide +kernel
  have hmethodName : methodName "say ßo" = "saySSo" := by decide +kernel
  have hwords : words "say ßo".toList = [['s', 'a', 'y'], ['ß', 'o']] := by decide +kernel
  rw [hwords] at hclass hmethod
  have hstable := hmethod.mpr (by simp [fraying])
  refine ⟨hclass.mpr (.inr (by simp [fraying])), hstable, ?_, ?_⟩
  · rw [← hname]
    refine hfound sharp.rows sharp.header rfl (by decide +kernel) _ sharp ?_
    rw [Registry.find?_register, if_pos rfl]
  · rw [← hmethodName]
    exact hinput hstable

/-- Names do not always keep themselves: a mark that comes in with a capital or a small letter ends
the word. -/
theorem not_stable_for_all_texts :
    (¬ ∀ text, className (className text) = className text)
      ∧ ¬ ∀ text, methodName (methodName text) = methodName text := by
  constructor
  · exact fun h => absurd (h "\u01F0ump") (by decide +kernel)
  · exact fun h => absurd (h "\u0130d") (by decide +kernel)

end Identifier

end ScenarioTables
