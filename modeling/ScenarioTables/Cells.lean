import ScenarioTables.Text.Blank

/-!
# Alternating cells

In headers and in calling rows the pieces of a name alternate with arguments: the cells at even
positions are fragments of the name and the cells at odd positions are arguments.
-/

set_option autoImplicit false

namespace ScenarioTables.Cells

/-- The cells at positions 0, 2, 4, … -/
def fragments : List String → List String
  | [] => []
  | [cell] => [cell]
  | cell :: _ :: rest => cell :: fragments rest

/-- The cells at positions 1, 3, 5, … -/
def arguments : List String → List String
  | [] => []
  | [_] => []
  | _ :: cell :: rest => cell :: arguments rest

/-- The cells one after another with single spaces between them. -/
def joined : List String → String
  | [] => ""
  | [cell] => cell
  | cell :: rest => cell ++ " " ++ joined rest

/-- The name that the fragments of alternating cells spell, without blanks at its ends. -/
def spelledName (cells : List String) : String :=
  Text.trimmed (joined (fragments cells))

/-- The trimmed arguments of alternating cells. -/
def spelledArguments (cells : List String) : List String :=
  (arguments cells).map Text.trimmed

end ScenarioTables.Cells
