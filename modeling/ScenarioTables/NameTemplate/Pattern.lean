import ScenarioTables.NameTemplate.Basic

/-!
# The pattern text of a name template

A template is also shown as a regular expression over the whole phrase: literals with their special
characters escaped, and a group of arbitrary text for each placeholder.
-/

set_option autoImplicit false

namespace ScenarioTables.NameTemplate

/-- Whether a character has a meaning of its own in a regular expression. -/
def isSpecial (c : Char) : Bool :=
  ['\\', '.', '+', '*', '?', '(', ')', '|', '[', ']', '\x7b', '\x7d', '^', '$', '#', '&', '-',
    '~'].contains c

/-- A text with a backslash before every special character. -/
def escape (cs : List Char) : List Char :=
  cs.flatMap fun c => if isSpecial c then ['\\', c] else [c]

/-- The group that stands for a placeholder. -/
def group : List Char := ['(', '.', '*', ')']

/-- The pattern text of one piece. -/
def tokenPattern : Token → List Char
  | .literal text => escape text.toList
  | .placeholder => group

/-- The regular expression that a template stands for. -/
def pattern (template : NameTemplate) : String :=
  String.ofList ('^' :: template.tokens.flatMap tokenPattern ++ ['$'])

end ScenarioTables.NameTemplate
