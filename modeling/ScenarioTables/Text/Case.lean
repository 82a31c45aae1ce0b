import ScenarioTables.Text.CaseTable
import ScenarioTables.Text.CaseContext

/-!
# Upper and lower case

Full case mapping: one character can become several (`ß` becomes `SS`, `İ` becomes an `i` with a
dot above it). Lowering a whole text treats the capital sigma by its place in the word; raising or
lowering one character alone does not look at its neighbours.
-/

set_option autoImplicit false

namespace ScenarioTables.Text

/-- The upper case of one character. -/
def upperChar (c : Char) : List Char :=
  if c.toNat < 0x80 then
    [if 'a' ≤ c ∧ c ≤ 'z' then Char.ofNat (c.toNat - 32) else c]
  else
    match upperSequences.find? (·.1 == c.toNat) with
    | some entry => entry.2.map Char.ofNat
    | none => [Char.ofNat (mapThrough upperRuns c.toNat)]

/-- The lower case of one character; only the capital I with a dot becomes two characters. -/
def lowerChar (c : Char) : List Char :=
  if c.toNat < 0x80 then
    [if 'A' ≤ c ∧ c ≤ 'Z' then Char.ofNat (c.toNat + 32) else c]
  else if c.toNat = 0x130 then
    ['i', Char.ofNat 0x307]
  else
    [Char.ofNat (mapThrough lowerRuns c.toNat)]

/-- Whether the first character that is not case-ignorable is cased. -/
def startsCased (cs : List Char) : Bool :=
  match cs.dropWhile isCaseIgnorable with
  | c :: _ => isCased c
  | [] => false

/-- Lowers the characters of a text, given what stands before them, nearest first. A capital sigma
takes its final form at the end of a word. -/
def lowerAfter (before : List Char) : List Char → List Char
  | [] => []
  | c :: rest =>
    let here :=
      if c = 'Σ' then
        [if startsCased before && !startsCased rest then 'ς' else 'σ']
      else lowerChar c
    here ++ lowerAfter (c :: before) rest

/-- The lower case of a text. -/
def lower (cs : List Char) : List Char :=
  lowerAfter [] cs

/-- The lower case of a text, sigmas by their place in the word. -/
def lowered (s : String) : String :=
  String.ofList (lower s.toList)

end ScenarioTables.Text
