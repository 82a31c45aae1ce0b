import ScenarioTables.Text.Case
import ScenarioTables.Text.Word

/-!
# Identifiers from cell text

Free text in a cell names a scenario, an argument or an action. Its identifier joins the words of
the text: in class style every word is capitalised, in method style the first word starts in lower
case and the others are capitalised. Only the first character of a word changes. A text that already
looks like a qualified name is its own class-style identifier.
-/

set_option autoImplicit false

namespace ScenarioTables.Identifier

open Text

/-- A word with its first character in upper case. -/
def capitalize : List Char → List Char
  | [] => []
  | c :: rest => upperChar c ++ rest

/-- A word with its first character in lower case. -/
def uncapitalize : List Char → List Char
  | [] => []
  | c :: rest => lowerChar c ++ rest

/-- Whether the first full stop of the text has something behind it. -/
def hasInnerDot (cs : List Char) : Bool :=
  match cs.dropWhile (· != '.') with
  | _ :: _ :: _ => true
  | _ => false

/-- Whether a text names something by a qualified name: it has an inner full stop or a dollar
sign. -/
def isQualified (cs : List Char) : Bool :=
  hasInnerDot cs || cs.contains '$'

/-- The class-style identifier of a text. -/
def classStyle (cs : List Char) : List Char :=
  if isQualified cs then cs else (words cs).flatMap capitalize

/-- The method-style identifier of a text. -/
def methodStyle (cs : List Char) : List Char :=
  match words cs with
  | [] => []
  | word :: rest => uncapitalize word ++ rest.flatMap capitalize

/-- The class-style identifier of a text: `log in user` is `LogInUser`. -/
def className (text : String) : String :=
  String.ofList (classStyle text.toList)

/-- The method-style identifier of a text: `Log in user` is `logInUser`. -/
def methodName (text : String) : String :=
  String.ofList (methodStyle text.toList)

end ScenarioTables.Identifier
