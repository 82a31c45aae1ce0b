import ScenarioTables.Json.Value

/-!
# Writing JSON

A value is written on one line without spaces (`compact`) or laid out over lines (`pretty`): each
item and each field on a line of its own, two spaces further in than what holds it; empty lists and
objects stay on one line. Quotes, backslashes and controls are escaped; all other characters are
written as they are.
-/

set_option autoImplicit false

namespace ScenarioTables.Json

/-- The last two hexadecimal digits of a number. -/
def twoHexDigits (n : Nat) : List Char :=
  [Nat.digitChar (n / 16 % 16), Nat.digitChar (n % 16)]

/-- The form of a character in a JSON string. -/
def escapeChar (c : Char) : List Char :=
  if c = '"' then ['\\', '"']
  else if c = '\\' then ['\\', '\\']
  else if c = '\n' then ['\\', 'n']
  else if c = '\r' then ['\\', 'r']
  else if c = '\t' then ['\\', 't']
  else if c = '\x08' then ['\\', 'b']
  else if c = '\x0c' then ['\\', 'f']
  else if c.toNat < 0x20 then '\\' :: 'u' :: '0' :: '0' :: twoHexDigits c.toNat
  else [c]

/-- A text as a JSON string. -/
def writeString (s : String) : List Char :=
  '"' :: s.toList.flatMap escapeChar ++ ['"']

/-- The beginning of a line at a depth. -/
def lineAt (depth : Nat) : List Char :=
  '\n' :: List.replicate (2 * depth) ' '

mutual

/-- The value over lines, where `depth` is the depth of the line it begins on. -/
def prettyAt (depth : Nat) : Json → List Char
  | .null => "null".toList
  | .bool true => "true".toList
  | .bool false => "false".toList
  | .number text => text.toList
  | .string text => writeString text
  | .array [] => ['[', ']']
  | .array (item :: items) =>
    '[' :: lineAt (depth + 1) ++ prettyAt (depth + 1) item ++ prettyItems (depth + 1) items
      ++ lineAt depth ++ [']']
  | .object [] => ['\x7b', '\x7d']
  | .object ((name, value) :: fields) =>
    '\x7b' :: lineAt (depth + 1) ++ writeString name ++ [':', ' '] ++ prettyAt (depth + 1) value
      ++ prettyFields (depth + 1) fields ++ lineAt depth ++ ['\x7d']

/-- The items of a list behind the first. -/
def prettyItems (depth : Nat) : List Json → List Char
  | [] => []
  | item :: items => ',' :: lineAt depth ++ prettyAt depth item ++ prettyItems depth items

/-- The fields of an object behind the first. -/
def prettyFields (depth : Nat) : List (String × Json) → List Char
  | [] => []
  | (name, value) :: fields =>
    ',' :: lineAt depth ++ writeString name ++ [':', ' '] ++ prettyAt depth value
      ++ prettyFields depth fields

end

mutual

/-- The value on one line. -/
def compactChars : Json → List Char
  | .null => "null".toList
  | .bool true => "true".toList
  | .bool false => "false".toList
  | .number text => text.toList
  | .string text => writeString text
  | .array [] => ['[', ']']
  | .array (item :: items) => '[' :: compactChars item ++ compactItems items ++ [']']
  | .object [] => ['\x7b', '\x7d']
  | .object ((name, value) :: fields) =>
    '\x7b' :: writeString name ++ [':'] ++ compactChars value ++ compactFields fields ++ ['\x7d']

/-- The items of a list behind the first. -/
def compactItems : List Json → List Char
  | [] => []
  | item :: items => ',' :: compactChars item ++ compactItems items

/-- The fields of an object behind the first. -/
def compactFields : List (String × Json) → List Char
  | [] => []
  | (name, value) :: fields =>
    ',' :: writeString name ++ [':'] ++ compactChars value ++ compactFields fields

end

/-- The text of a value over lines. -/
def pretty (value : Json) : String :=
  String.ofList (prettyAt 0 value)

/-- The text of a value on one line. -/
def compact (value : Json) : String :=
  String.ofList (compactChars value)

end ScenarioTables.Json
