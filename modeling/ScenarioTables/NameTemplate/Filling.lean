import ScenarioTables.NameTemplate.Basic

/-!
# Filling a name template

A phrase invokes a scenario when it repeats the literals of the scenario's template in order, with
some text on one line in place of each placeholder. A phrase can often be read so in several ways;
`captures` takes the one that gives most to the first placeholder, then most to the second, and so
on. It works on all endings of the phrase at once, from the last piece of the template to the first,
so its cost grows with the product of the two lengths only. `fill` is the other direction: it puts
texts into the places.
-/

set_option autoImplicit false

namespace ScenarioTables.NameTemplate

/-- The texts in the places of some pieces, or nothing where the pieces do not fit. -/
abbrev Parts := Option (List (List Char))

/-- The parts for every ending of a text when there are no pieces: only the empty ending fits. -/
def endParts : List Char → List Parts
  | [] => [some []]
  | _ :: cs => none :: endParts cs

/-- The parts for every ending when a literal stands before the pieces whose parts are given. -/
def literalParts (literal : List Char) : List Char → List Parts → List Parts
  | _, [] => []
  | cs, later :: rest =>
    (if literal.isPrefixOf cs then ((later :: rest)[literal.length]?).join else none)
      :: literalParts literal cs.tail rest

/-- The parts for an ending from those for the ending one character shorter, when a placeholder
stands before the pieces: the place takes the character too if it can, and is empty otherwise. -/
def extendParts (c : Char) (shorter later : Parts) : Parts :=
  match shorter with
  | some (part :: parts) =>
    if c = '\n' then later.map ([] :: ·) else some ((c :: part) :: parts)
  | _ => later.map ([] :: ·)

/-- The parts for every ending when a placeholder stands before the pieces whose parts are given. -/
def placeParts : List Char → List Parts → List Parts
  | c :: cs, later :: rest =>
    let shorter := placeParts cs rest
    extendParts c shorter.head?.join later :: shorter
  | _, later => later.map fun parts => parts.map ([] :: ·)

/-- The parts for every ending of a text, the whole text first. -/
def partsOfEndings (cs : List Char) : List Token → List Parts
  | [] => endParts cs
  | .literal text :: tokens => literalParts text.toList cs (partsOfEndings cs tokens)
  | .placeholder :: tokens => placeParts cs (partsOfEndings cs tokens)

/-- The arguments that a phrase gives to the placeholders of a template, if it fits. -/
def captures (template : NameTemplate) (phrase : String) : Option (List String) :=
  ((partsOfEndings phrase.toList template.tokens).head?.join).map (·.map String.ofList)

/-- Whether a phrase fits a template. -/
def isMatch (template : NameTemplate) (phrase : String) : Bool :=
  (template.captures phrase).isSome

/-- Writes the pieces with the given texts in the places; none unless there is exactly one text for
each place. -/
def fillTokens : List Token → List String → Option String
  | [], [] => some ""
  | [], _ :: _ => none
  | .literal text :: tokens, values => (fillTokens tokens values).map (text ++ ·)
  | .placeholder :: _, [] => none
  | .placeholder :: tokens, value :: values => (fillTokens tokens values).map (value ++ ·)

/-- The phrase of a template with the given texts in its places. -/
def fill (template : NameTemplate) (values : List String) : Option String :=
  fillTokens template.tokens values

end ScenarioTables.NameTemplate
