import ScenarioTables.Text.Blank
import ScenarioTables.Text.Word

/-!
# Name templates

The name of a scenario can have places for its arguments: in `add _ and _` each underscore that
stands alone is a placeholder. A template is the list of its literal texts and placeholders. It is
read from one cell (`parse`) or put together from the name cells of a header whose argument cells
stand between them (`alternating`). `unparameterized` is the name without the placeholders.
-/

set_option autoImplicit false

namespace ScenarioTables

/-- A piece of a name template. -/
inductive Token where
  /-- Text that a phrase repeats verbatim. -/
  | literal (text : String)
  /-- The place of one argument. -/
  | placeholder
  deriving DecidableEq, Repr

/-- A scenario name with places for arguments. -/
structure NameTemplate where
  /-- The pieces from left to right. -/
  tokens : List Token
  deriving DecidableEq, Repr

namespace NameTemplate

open Text

/-- Whether an underscore with these neighbours stands alone: a character precedes it, and neither
that one nor the next, if there is a next, is an ASCII word character. -/
def standsAlone (previous next : Option Char) : Bool :=
  (match previous with
    | some c => !isAsciiWord c
    | none => false) &&
  (match next with
    | some c => !isAsciiWord c
    | none => true)

/-- The literal of the characters read since the last placeholder, nearest first; none if there are
no such characters. -/
def pendingLiteral : List Char → List Token
  | [] => []
  | pending => [.literal (String.ofList pending.reverse)]

/-- Reads the pieces of the text that follows the character `previous`. -/
def scan (previous : Option Char) (pending : List Char) : List Char → List Token
  | [] => pendingLiteral pending
  | c :: rest =>
    if c = '_' ∧ standsAlone previous rest.head? then
      pendingLiteral pending ++ .placeholder :: scan (some c) [] rest
    else
      scan (some c) (c :: pending) rest

/-- The template of a name cell. -/
def parse (raw : String) : NameTemplate :=
  ⟨scan none [] raw.toList⟩

/-- One fragment of a name with the place that follows it. -/
def fragmentTokens (literal : String) : List Token :=
  [.literal literal, .placeholder]

/-- Drops a leading literal that is blank. -/
def dropBlankHead : List Token → List Token
  | .literal text :: rest => if trim text.toList = [] then rest else .literal text :: rest
  | tokens => tokens

/-- The template of name cells that alternate with argument cells: a place follows every fragment,
and single spaces stand around the fragments inside. -/
def alternating : List String → NameTemplate
  | [] => ⟨[]⟩
  | first :: rest =>
    ⟨dropBlankHead
      (fragmentTokens (String.ofList (trimStart first.toList) ++ " ")
        ++ rest.flatMap fun fragment => fragmentTokens (" " ++ fragment ++ " "))⟩

/-- The number of placeholders. -/
def placeholderCount (template : NameTemplate) : Nat :=
  template.tokens.count .placeholder

/-- Whether there is a placeholder. -/
def isParameterized (template : NameTemplate) : Bool :=
  0 < template.placeholderCount

/-- Writes the pieces behind a text that is held with its last character first. A placeholder takes
the place of the character before it and leaves a space. -/
def writeBlanks (written : List Char) : List Token → List Char
  | [] => written
  | .literal text :: rest => writeBlanks (text.toList.reverse ++ written) rest
  | .placeholder :: rest => writeBlanks (' ' :: written.tail) rest

/-- The name without placeholders: each is replaced, with the character before it, by a space, and
the result is trimmed. -/
def unparameterized (template : NameTemplate) : String :=
  String.ofList (trim (writeBlanks [] template.tokens).reverse)

end NameTemplate

end ScenarioTables
