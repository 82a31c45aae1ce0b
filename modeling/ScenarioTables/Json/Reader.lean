import ScenarioTables.Json.Value
import ScenarioTables.Text.Digits

/-!
# Reading JSON

A strict reader: one value, with spaces around and between its parts and nothing else. Numbers are
checked against the grammar and kept as text. In strings controls must be escaped, and escapes of
surrogates must come in pairs.
-/

set_option autoImplicit false

namespace ScenarioTables.Json

/-- Whether a character may stand between the parts of a value. -/
def isSpace (c : Char) : Bool :=
  c == ' ' || c == '\n' || c == '\t' || c == '\r'

/-- The character that an escape of two characters stands for. -/
def shortEscape? : Char → Option Char
  | '"' => some '"'
  | '\\' => some '\\'
  | '/' => some '/'
  | 'b' => some '\x08'
  | 'f' => some '\x0c'
  | 'n' => some '\n'
  | 'r' => some '\r'
  | 't' => some '\t'
  | _ => none

/-- What a code unit in an escape amounts to, given the first half of a pair before it. -/
inductive UnitMeaning where
  /-- It completes a character. -/
  | character (c : Char)
  /-- It is the first half of a pair. -/
  | firstHalf (unit : Nat)

/-- The meaning of a code unit; none for a half that stands alone. -/
def unitMeaning? (firstHalf : Option Nat) (unit : Nat) : Option UnitMeaning :=
  match firstHalf with
  | some high =>
    if 0xDC00 ≤ unit ∧ unit < 0xE000 then
      some (.character (Char.ofNat (0x10000 + (high - 0xD800) * 0x400 + (unit - 0xDC00))))
    else none
  | none =>
    if 0xD800 ≤ unit ∧ unit < 0xDC00 then some (.firstHalf unit)
    else if 0xDC00 ≤ unit ∧ unit < 0xE000 then none
    else some (.character (Char.ofNat unit))

/-- The characters of a string up to its closing quote, and what follows the quote. -/
def readChars (firstHalf : Option Nat) : List Char → Option (List Char × List Char)
  | [] => none
  | '\\' :: 'u' :: a :: b :: c :: d :: rest =>
    match (Text.hexadecimal? [a, b, c, d]).bind (unitMeaning? firstHalf) with
    | none => none
    | some (.firstHalf unit) => readChars (some unit) rest
    | some (.character x) => (readChars none rest).map fun (xs, rest) => (x :: xs, rest)
  | '\\' :: e :: rest =>
    if firstHalf.isSome then none
    else match shortEscape? e with
      | none => none
      | some x => (readChars none rest).map fun (xs, rest) => (x :: xs, rest)
  | c :: rest =>
    if firstHalf.isSome then none
    else if c = '"' then some ([], rest)
    else if c = '\\' ∨ c.toNat < 0x20 then none
    else (readChars none rest).map fun (xs, rest) => (c :: xs, rest)

/-- Whether a text consists of digits and has at least one. -/
def isDigits (cs : List Char) : Bool :=
  !cs.isEmpty && cs.all (·.isDigit)

/-- Whether a text is an exponent without its letter. -/
def isExponent : List Char → Bool
  | '+' :: cs => isDigits cs
  | '-' :: cs => isDigits cs
  | cs => isDigits cs

/-- Whether a text is what may follow the whole part of a number. -/
def isNumberTail : List Char → Bool
  | [] => true
  | '.' :: cs =>
    let digits := cs.takeWhile (·.isDigit)
    match cs.dropWhile (·.isDigit) with
    | [] => !digits.isEmpty
    | c :: rest => !digits.isEmpty && (c == 'e' || c == 'E') && isExponent rest
  | c :: cs => (c == 'e' || c == 'E') && isExponent cs

/-- Whether a text is a number without its sign. -/
def isUnsignedNumber : List Char → Bool
  | '0' :: cs => isNumberTail cs
  | c :: cs => c.isDigit && isNumberTail (cs.dropWhile (·.isDigit))
  | [] => false

/-- Whether a text is a number. -/
def isNumber : List Char → Bool
  | '-' :: cs => isUnsignedNumber cs
  | cs => isUnsignedNumber cs

/-- Whether a character can stand in a number. -/
def isNumberChar (c : Char) : Bool :=
  c.isDigit || c == '-' || c == '+' || c == '.' || c == 'e' || c == 'E'

/-- The number at the beginning of a text. -/
def readNumber (cs : List Char) : Option (Json × List Char) :=
  let text := cs.takeWhile isNumberChar
  if isNumber text then some (.number (String.ofList text), cs.dropWhile isNumberChar) else none

/-- A word or a number at the beginning of a text. -/
def readAtom : List Char → Option (Json × List Char)
  | 'n' :: 'u' :: 'l' :: 'l' :: rest => some (.null, rest)
  | 't' :: 'r' :: 'u' :: 'e' :: rest => some (.bool true, rest)
  | 'f' :: 'a' :: 'l' :: 's' :: 'e' :: rest => some (.bool false, rest)
  | cs => readNumber cs

mutual

/-- The value at the beginning of a text. -/
def readValue : Nat → List Char → Option (Json × List Char)
  | 0, _ => none
  | fuel + 1, cs =>
    match cs.dropWhile isSpace with
    | '"' :: rest =>
      (readChars none rest).map fun (text, rest) => (.string (String.ofList text), rest)
    | '[' :: rest =>
      match rest.dropWhile isSpace with
      | ']' :: rest => some (.array [], rest)
      | rest => (readItems fuel rest).map fun (items, rest) => (.array items, rest)
    | '\x7b' :: rest =>
      match rest.dropWhile isSpace with
      | '\x7d' :: rest => some (.object [], rest)
      | rest => (readFields fuel rest).map fun (fields, rest) => (.object fields, rest)
    | rest => readAtom rest

/-- The items of a list up to its closing bracket; there is at least one. -/
def readItems : Nat → List Char → Option (List Json × List Char)
  | 0, _ => none
  | fuel + 1, cs =>
    match readValue fuel cs with
    | none => none
    | some (item, rest) =>
      match rest.dropWhile isSpace with
      | ',' :: rest => (readItems fuel rest).map fun (items, rest) => (item :: items, rest)
      | ']' :: rest => some ([item], rest)
      | _ => none

/-- The fields of an object up to its closing brace; there is at least one. -/
def readFields : Nat → List Char → Option (List (String × Json) × List Char)
  | 0, _ => none
  | fuel + 1, cs =>
    match cs.dropWhile isSpace with
    | '"' :: rest =>
      match readChars none rest with
      | none => none
      | some (name, rest) =>
        match rest.dropWhile isSpace with
        | ':' :: rest =>
          match readValue fuel rest with
          | none => none
          | some (value, rest) =>
            match rest.dropWhile isSpace with
            | ',' :: rest =>
              (readFields fuel rest).map fun (fields, rest) =>
                ((String.ofList name, value) :: fields, rest)
            | '\x7d' :: rest => some ([(String.ofList name, value)], rest)
            | _ => none
        | _ => none
    | _ => none

end

/-- The value that a text is, if the text is one value and nothing else. -/
def read? (text : String) : Option Json :=
  match readValue (text.toList.length + 1) text.toList with
  | some (value, rest) => if rest.all isSpace then some value else none
  | none => none

end ScenarioTables.Json
