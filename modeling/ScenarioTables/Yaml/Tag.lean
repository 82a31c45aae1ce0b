import ScenarioTables.Text.Digits
import ScenarioTables.Yaml.Cursor

/-!
# Tags and directives of a YAML text

A tag stands before a node and names its type. Nodes are read by their shape, so of a tag only its
handle matters: the first part, between exclamation marks, which must be known. Two handles are
always known; a directive in front of the document declares another. The other directive states the
version of the format, which must be 1.1 or 1.2.

The rest of a tag is a URI, in which a character may stand as the escaped octets of its UTF-8 form.
-/

set_option autoImplicit false

namespace ScenarioTables.Yaml

/-- Whether a character can stand in the name of an anchor, a handle or a directive. -/
def isNameChar (c : Char) : Bool :=
  c.isAlphanum || c == '_' || c == '-'

/-- The octet that a percent sign and two hexadecimal digits stand for. -/
def octet? : List Char → Option Nat
  | '%' :: high :: low :: _ =>
    (Text.hexDigit? high).bind fun high => (Text.hexDigit? low).map (high * 16 + ·)
  | _ => none

/-- The number of octets in the UTF-8 form that begins with an octet. -/
def formLength? (first : Nat) : Option Nat :=
  if first < 0x80 then some 1
  else if first < 0xC0 then none
  else if first < 0xE0 then some 2
  else if first < 0xF0 then some 3
  else if first < 0xF8 then some 4
  else none

/-- Whether a text begins with the given number of escaped octets that continue a UTF-8 form. -/
def continuesForm : Nat → List Char → Bool
  | 0, _ => true
  | n + 1, cs =>
    ((octet? cs).any fun octet => 0x80 ≤ octet && octet < 0xC0) && continuesForm n (cs.drop 3)

/-- The length of the escapes that stand for one character at the beginning of a text. -/
def escapesLength? (cs : List Char) : Option Nat :=
  ((octet? cs).bind formLength?).bind fun n =>
    if continuesForm (n - 1) (cs.drop 3) then some (3 * n) else none

/-- Whether a character other than a percent sign can stand in a URI. Commas and brackets can only
where the URI has an end of its own. -/
def isUriChar (enclosed : Bool) (c : Char) : Bool :=
  isNameChar c || ";/?:@&=+$.!~*'()".toList.contains c || (enclosed && ",[]".toList.contains c)

/-- The length of the URI at the beginning of a text; refused if an escape in it is malformed. -/
def uriLengthFrom? (enclosed : Bool) : Nat → Nat → List Char → Option Nat
  | 0, length, _ => some length
  | _ + 1, length, [] => some length
  | fuel + 1, length, c :: rest =>
    if c = '%' then
      (escapesLength? (c :: rest)).bind fun n =>
        uriLengthFrom? enclosed fuel (length + n) ((c :: rest).drop n)
    else if isUriChar enclosed c then uriLengthFrom? enclosed fuel (length + 1) rest
    else some length

/-- The place behind the URI here, which may be empty. -/
def skipUri? (enclosed : Bool) (cursor : Cursor) : Option Cursor :=
  (uriLengthFrom? enclosed cursor.rest.length 0 cursor.rest).map fun n => cursor.skip n

/-- The place behind the URI here, which must not be empty. -/
def skipSomeUri? (enclosed : Bool) (cursor : Cursor) : Option Cursor :=
  (skipUri? enclosed cursor).filter fun behind => cursor.column < behind.column

/-- Reads an exclamation mark, a name, which may be empty, and another exclamation mark if there is
one. -/
def readHandle (cursor : Cursor) : List Char × Cursor :=
  let (name, behind) := cursor.next.takeWhile isNameChar
  if behind.rest.head? = some '!' then ('!' :: name ++ ['!'], behind.next)
  else ('!' :: name, behind)

/-- Whether a handle is closed by an exclamation mark of its own. -/
def isClosedHandle (handle : List Char) : Bool :=
  1 < handle.length && handle.getLast? == some '!'

/-- The handle of a tag in which no closed handle stands. -/
def localHandle : String := "!"

/-- The handles that are known without a directive. -/
def knownHandles : List String := [localHandle, "!!"]

/-- Reads a tag from its exclamation mark on and answers its handle; a tag in angle brackets has
none. -/
def readTag? (cursor : Cursor) : Option (Option String × Cursor) :=
  if "!<".toList.isPrefixOf cursor.rest then
    (skipSomeUri? true (cursor.skip 2)).bind fun behind =>
      if behind.rest.head? = some '>' then some (none, behind.next) else none
  else
    let (handle, behind) := readHandle cursor
    if isClosedHandle handle then
      (skipSomeUri? false behind).map fun behind => (some (String.ofList handle), behind)
    else (skipUri? false behind).map fun behind => (some localHandle, behind)

/-- A directive. -/
inductive Directive where
  /-- The version of the format, one that is supported. -/
  | version
  /-- The declaration of a handle. -/
  | handle (name : String)
  deriving DecidableEq, Repr

/-- The handle that a directive declares. -/
def Directive.declared? : Directive → Option String
  | .version => none
  | .handle name => some name

/-- Reads a number of at most nine digits. -/
def readVersionPart? (cursor : Cursor) : Option (Nat × Cursor) :=
  let (digits, behind) := cursor.takeWhile (·.isDigit)
  if !digits.isEmpty && digits.length ≤ 9 then some (Text.decimalValue digits, behind) else none

/-- Reads a version that is supported. -/
def readVersion? (cursor : Cursor) : Option Cursor :=
  (readVersionPart? cursor).bind fun (major, behind) =>
    if behind.rest.head? = some '.' then
      (readVersionPart? behind.next).bind fun (minor, behind) =>
        if major = 1 ∧ (minor = 1 ∨ minor = 2) then some behind else none
    else none

/-- Reads a handle and the URI that it stands for. -/
def readDeclaration? (cursor : Cursor) : Option (String × Cursor) :=
  if cursor.rest.head? = some '!' then
    let (handle, behind) := readHandle cursor
    let name := String.ofList handle
    if (isClosedHandle handle || name == localHandle) && behind.rest.head?.any isBlank then
      ((skipSomeUri? true behind.skipBlanks).filter fun behind => isGapStart behind.rest).map
        fun behind => (name, behind)
    else none
  else none

/-- Reads a directive from behind its percent sign up to the next line. -/
def readDirective? (cursor : Cursor) : Option (Directive × Cursor) :=
  let (name, behind) := cursor.takeWhile isNameChar
  if isGapStart behind.rest then
    let content := behind.skipBlanks
    let directive? :=
      if name = "YAML".toList then (readVersion? content).map fun behind => (.version, behind)
      else if name = "TAG".toList then
        (readDeclaration? content).map fun (handle, behind) => (.handle handle, behind)
      else none
    directive?.bind fun (directive, behind) =>
      behind.restOfLine?.map fun next => (directive, next)
  else none

end ScenarioTables.Yaml
