import ScenarioTables.Text.LetterNumber

/-!
# Words of a text

A word character is a letter, a number or the underscore; the words of a text are its longest runs
of word characters. Everything between two words separates them and is forgotten.
-/

set_option autoImplicit false

namespace ScenarioTables.Text

/-- Whether a character is an ASCII letter, an ASCII digit or the underscore. -/
def isAsciiWord (c : Char) : Bool :=
  c.isAlphanum || c == '_'

/-- Whether a character is a letter, a number or the underscore. -/
def isWordChar (c : Char) : Bool :=
  if c.toNat < 0x80 then isAsciiWord c else inRanges letterNumberRanges c.toNat

/-- The words of a text in order, none of them empty. -/
def words (cs : List Char) : List (List Char) :=
  (cs.splitOnP (!isWordChar ·)).filter (!·.isEmpty)

/-- No word is empty. -/
theorem ne_nil_of_mem_words {cs word : List Char} (h : word ∈ words cs) : word ≠ [] := by
  have := (List.mem_filter.mp h).2
  intro hnil
  simp [hnil] at this

end ScenarioTables.Text
