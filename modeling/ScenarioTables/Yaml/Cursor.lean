/-!
# Places in a YAML text

A cursor is a place in a text: what follows it, and its line and column, by which YAML decides about
nesting. Blanks are spaces and tabs; line ends are line feed, carriage return, their pair, and the
line and paragraph separators.
-/

set_option autoImplicit false

namespace ScenarioTables.Yaml

/-- Whether a character is a space or a tab. -/
def isBlank (c : Char) : Bool :=
  c == ' ' || c == '\t'

/-- Whether a character ends a line. -/
def isBreak (c : Char) : Bool :=
  c == '\n' || c == '\r' || c.toNat == 0x85 || c.toNat == 0x2028 || c.toNat == 0x2029

/-- Whether a text is at its end or begins with a blank or a line end. -/
def isGapStart : List Char → Bool
  | [] => true
  | c :: _ => isBlank c || isBreak c

/-- Whether a character may stand in a YAML text at all. -/
def isPermitted (c : Char) : Bool :=
  let n := c.toNat
  n == 9 || n == 10 || n == 13 || (0x20 ≤ n && n ≤ 0x7E) || n == 0x85
    || (0xA0 ≤ n && n ≤ 0xFFFD) || 0x10000 ≤ n

/-- The number of octets of the UTF-8 form of some characters. -/
def octets (cs : List Char) : Nat :=
  cs.foldl (fun length c => length + c.utf8Size) 0

/-- A place in a text. -/
structure Cursor where
  /-- What follows. -/
  rest : List Char
  /-- The number of octets before. -/
  index : Nat
  /-- The number of lines before. -/
  line : Nat
  /-- The number of characters before on the same line. -/
  column : Nat
  deriving Repr, DecidableEq

namespace Cursor

/-- The beginning of a text. -/
def start (cs : List Char) : Cursor := ⟨cs, 0, 0, 0⟩

/-- The place behind the next character, which does not end a line. -/
def next (cursor : Cursor) : Cursor :=
  ⟨cursor.rest.tail, cursor.index + octets (cursor.rest.take 1), cursor.line, cursor.column + 1⟩

/-- The place some characters on, none of which ends a line. -/
def skip (n : Nat) (cursor : Cursor) : Cursor :=
  ⟨cursor.rest.drop n, cursor.index + octets (cursor.rest.take n), cursor.line, cursor.column + n⟩

/-- The beginning of the next line, from a line end. -/
def nextLine (cursor : Cursor) : Cursor :=
  match cursor.rest with
  | '\r' :: '\n' :: rest => ⟨rest, cursor.index + 2, cursor.line + 1, 0⟩
  | rest => ⟨rest.tail, cursor.index + octets (rest.take 1), cursor.line + 1, 0⟩

/-- The characters up to the first that fails the test, and the place there. None of them may end a
line. -/
def takeWhile (test : Char → Bool) (cursor : Cursor) : List Char × Cursor :=
  let taken := cursor.rest.takeWhile test
  (taken, cursor.skip taken.length)

/-- The end of the line. -/
def lineEnd (cursor : Cursor) : Cursor :=
  (cursor.takeWhile fun c => !isBreak c).2

/-- The place behind the blanks here. -/
def skipBlanks (cursor : Cursor) : Cursor :=
  (cursor.takeWhile isBlank).2

/-- The beginning of the next line, or the end of the text, if nothing but blanks and a comment is
left on this line. -/
def restOfLine? (cursor : Cursor) : Option Cursor :=
  let behind := cursor.skipBlanks
  let cursor := if behind.rest.head? = some '#' then behind.lineEnd else behind
  match cursor.rest with
  | [] => some cursor
  | c :: _ => if isBreak c then some cursor.nextLine else none

/-- Whether a mark of three characters stands alone at the beginning of a line. -/
def isMark (mark : List Char) (cursor : Cursor) : Bool :=
  cursor.column == 0 && mark.isPrefixOf cursor.rest && isGapStart (cursor.rest.drop 3)

/-- Whether the mark of a document's beginning or end stands here. -/
def isDocumentMark (cursor : Cursor) : Bool :=
  cursor.isMark ['-', '-', '-'] || cursor.isMark ['.', '.', '.']

end Cursor

/-- The form that a line end takes in a value. -/
def breakValue (c : Char) : Char :=
  if c.toNat = 0x2028 ∨ c.toNat = 0x2029 then c else '\n'

/-- The blanks and line ends between two parts of a value. -/
structure Gap where
  /-- The blanks before the first line end. -/
  blanks : List Char
  /-- The line ends. -/
  breaks : List Char
  deriving Repr, DecidableEq

namespace Gap

/-- What a gap is in a value that runs over lines: blanks alone stay, one line end is a space, and
of several line ends all but the first stay. -/
def folded (gap : Gap) : List Char :=
  match gap.breaks with
  | [] => gap.blanks
  | ['\n'] => [' ']
  | '\n' :: more => more
  | breaks => breaks

/-- Reads a gap behind one that has been read already. A tab at the beginning of a line and before
column `indent` is refused. -/
def readFrom (indent : Nat) : Nat → Gap → Cursor → Option (Gap × Cursor)
  | 0, gap, cursor => some (gap, cursor)
  | fuel + 1, gap, cursor =>
    match cursor.rest with
    | c :: _ =>
      if isBlank c then
        if gap.breaks.isEmpty then
          readFrom indent fuel { gap with blanks := gap.blanks ++ [c] } cursor.next
        else if c = '\t' ∧ cursor.column < indent then none
        else readFrom indent fuel gap cursor.next
      else if isBreak c then
        readFrom indent fuel { gap with breaks := gap.breaks ++ [breakValue c] } cursor.nextLine
      else some (gap, cursor)
    | [] => some (gap, cursor)

/-- Reads the gap at a place. -/
def read (indent : Nat) (cursor : Cursor) : Option (Gap × Cursor) :=
  let length := (cursor.rest.takeWhile fun c => isBlank c || isBreak c).length
  readFrom indent length ⟨[], []⟩ cursor

end Gap

end ScenarioTables.Yaml
