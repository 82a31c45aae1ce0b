import ScenarioTables.Text.Digits
import ScenarioTables.Yaml.Cursor

/-!
# Scalars of a YAML text

The four ways to write a value: between single quotes, between double quotes with escapes, plain,
and as an indented block. A value over several lines is folded, except in a literal block.
-/

set_option autoImplicit false

namespace ScenarioTables.Yaml

/-- The character that the given number of hexadecimal digits spell. -/
def codePoint? (digits : Nat) (cs : List Char) : Option Char :=
  if digits ≤ cs.length then
    (Text.hexadecimal? (cs.take digits)).bind fun n =>
      if n.isValidChar then some (Char.ofNat n) else none
  else none

/-- The character of an escape in double quotes and the number of characters that the escape takes
behind the backslash. -/
def escape? : List Char → Option (Char × Nat)
  | '0' :: _ => some ('\x00', 1)
  | 'a' :: _ => some ('\x07', 1)
  | 'b' :: _ => some ('\x08', 1)
  | 't' :: _ => some ('\t', 1)
  | '\t' :: _ => some ('\t', 1)
  | 'n' :: _ => some ('\n', 1)
  | 'v' :: _ => some ('\x0b', 1)
  | 'f' :: _ => some ('\x0c', 1)
  | 'r' :: _ => some ('\r', 1)
  | 'e' :: _ => some ('\x1b', 1)
  | ' ' :: _ => some (' ', 1)
  | '"' :: _ => some ('"', 1)
  | '/' :: _ => some ('/', 1)
  | '\\' :: _ => some ('\\', 1)
  | 'N' :: _ => some (Char.ofNat 0x85, 1)
  | '_' :: _ => some (Char.ofNat 0xA0, 1)
  | 'L' :: _ => some (Char.ofNat 0x2028, 1)
  | 'P' :: _ => some (Char.ofNat 0x2029, 1)
  | 'x' :: rest => (codePoint? 2 rest).map fun c => (c, 3)
  | 'u' :: rest => (codePoint? 4 rest).map fun c => (c, 5)
  | 'U' :: rest => (codePoint? 8 rest).map fun c => (c, 9)
  | _ => none

/-- Reads a value between single quotes from behind the opening quote. -/
def readSingle : Nat → List Char → Cursor → Option (List Char × Cursor)
  | 0, _, _ => none
  | fuel + 1, value, cursor =>
    if cursor.isDocumentMark then none
    else match cursor.rest with
    | '\'' :: '\'' :: _ => readSingle fuel (value ++ ['\'']) (cursor.skip 2)
    | '\'' :: _ => some (value, cursor.next)
    | c :: _ =>
      if isBlank c || isBreak c then
        (Gap.read 0 cursor).bind fun (gap, cursor) =>
          readSingle fuel (value ++ gap.folded) cursor
      else readSingle fuel (value ++ [c]) cursor.next
    | [] => none

/-- Reads a value between double quotes from behind the opening quote. -/
def readDouble : Nat → List Char → Cursor → Option (List Char × Cursor)
  | 0, _, _ => none
  | fuel + 1, value, cursor =>
    if cursor.isDocumentMark then none
    else match cursor.rest with
    | '"' :: _ => some (value, cursor.next)
    | '\\' :: c :: rest =>
      if isBreak c then
        (Gap.read 0 cursor.next.nextLine).bind fun (gap, cursor) =>
          readDouble fuel (value ++ gap.breaks) cursor
      else
        (escape? (c :: rest)).bind fun (x, length) =>
          readDouble fuel (value ++ [x]) (cursor.skip (length + 1))
    | ['\\'] => none
    | c :: _ =>
      if isBlank c || isBreak c then
        (Gap.read 0 cursor).bind fun (gap, cursor) =>
          readDouble fuel (value ++ gap.folded) cursor
      else readDouble fuel (value ++ [c]) cursor.next
    | [] => none

/-- Whether a character separates the parts of a flow collection. -/
def isFlowIndicator (c : Char) : Bool :=
  c == ',' || c == '[' || c == ']' || c == '\x7b' || c == '\x7d'

/-- The part of a plain value up to a gap or to what ends the value. In a flow collection a colon
must not stand before an indicator. -/
def plainPart (inFlow : Bool) : List Char → Option (List Char)
  | [] => some []
  | c :: rest =>
    if isBlank c || isBreak c then some []
    else if c = ':' ∧ isGapStart rest then some []
    else if inFlow ∧ isFlowIndicator c then some []
    else if inFlow ∧ c = ':' ∧ (rest.head?.any fun d => isFlowIndicator d || d == '?') then none
    else (plainPart inFlow rest).map (c :: ·)

/-- A plain value, the place behind it and the gap that follows it, and whether that gap holds a
line end. -/
structure PlainValue where
  value : List Char
  /-- The place behind the value and its gap. -/
  cursor : Cursor
  /-- Whether the value ends before a line end. -/
  endsLine : Bool

/-- Reads a plain value that goes on behind a gap. Outside flow collections each further line must
reach column `indent`. -/
def readPlain (inFlow : Bool) (indent : Nat) : Nat → Gap → Cursor → Option PlainValue
  | 0, _, _ => none
  | fuel + 1, gap, cursor =>
    let ended : PlainValue := ⟨[], cursor, !gap.breaks.isEmpty⟩
    if cursor.isDocumentMark || cursor.rest.head? == some '#' then some ended
    else match plainPart inFlow cursor.rest with
    | none => none
    | some [] => some ended
    | some part =>
      let value := gap.folded ++ part
      let cursor := cursor.skip part.length
      (Gap.read indent cursor).bind fun (gap, next) =>
        if gap.blanks.isEmpty && gap.breaks.isEmpty then some ⟨value, cursor, false⟩
        else if !inFlow && next.column < indent then some ⟨value, next, !gap.breaks.isEmpty⟩
        else
          (readPlain inFlow indent fuel gap next).map fun more =>
            { more with value := value ++ more.value }

/-- What becomes of the line ends behind a block. -/
inductive Chomping where
  /-- None stays. -/
  | strip
  /-- One stays. -/
  | clip
  /-- All stay. -/
  | keep
  deriving DecidableEq, Repr

/-- The chomping that a character stands for. -/
def Chomping.ofChar? : Char → Option Chomping
  | '+' => some .keep
  | '-' => some .strip
  | _ => none

/-- A digit from one to nine. -/
def indentDigit? (c : Char) : Option Nat :=
  if '1' ≤ c ∧ c ≤ '9' then some (c.toNat - 48) else none

/-- The chomping and the added indentation that a block's first line states, and the place behind
them. -/
def blockHeader (cursor : Cursor) : Chomping × Option Nat × Cursor :=
  match cursor.rest with
  | a :: b :: _ =>
    match Chomping.ofChar? a, indentDigit? a, Chomping.ofChar? b, indentDigit? b with
    | some chomping, _, _, some n => (chomping, some n, cursor.skip 2)
    | some chomping, _, _, none => (chomping, none, cursor.next)
    | none, some n, some chomping, _ => (chomping, some n, cursor.skip 2)
    | none, some n, none, _ => (.clip, some n, cursor.next)
    | none, none, _, _ => (.clip, none, cursor)
  | [a] =>
    match Chomping.ofChar? a, indentDigit? a with
    | some chomping, _ => (chomping, none, cursor.next)
    | none, some n => (.clip, some n, cursor.next)
    | none, none => (.clip, none, cursor)
  | [] => (.clip, none, cursor)

/-- Reads empty lines and the indentation of the line behind them, up to column `indent` if that is
known; answers the line ends and the widest indentation. -/
def blockBreaks (indent : Option Nat) :
    Nat → List Char → Nat → Cursor → Option (List Char × Nat × Cursor)
  | 0, breaks, widest, cursor => some (breaks, widest, cursor)
  | fuel + 1, breaks, widest, cursor =>
    let room : Bool := (indent.map fun n => decide (cursor.column < n)).getD true
    let widest := max widest cursor.column
    match cursor.rest with
    | c :: _ =>
      if room && c == ' ' then blockBreaks indent fuel breaks widest cursor.next
      else if room && c == '\t' then none
      else if isBreak c then
        blockBreaks indent fuel (breaks ++ [breakValue c]) widest cursor.nextLine
      else some (breaks, widest, cursor)
    | [] => some (breaks, widest, cursor)

/-- The line end behind a line, as it appears in the value, and the beginning of the next line. -/
def takeBreak (cursor : Cursor) : List Char × Cursor :=
  match cursor.rest with
  | [] => ([], cursor)
  | c :: _ => ([breakValue c], cursor.nextLine)

/-- Reads the lines of a block at an indentation. `last` is the line end of the line before, `more`
the empty lines behind it, and `indented` says whether that line began with a blank. -/
def blockLines (literal : Bool) (chomping : Chomping) (indent : Nat) :
    Nat → List Char → List Char → List Char → Bool → Cursor → Option (List Char × Cursor)
  | 0, _, _, _, _, _ => none
  | fuel + 1, value, last, more, indented, cursor =>
    if cursor.column = indent ∧ cursor.rest ≠ [] then
      let blank := cursor.rest.head?.any isBlank
      let joint :=
        if !literal ∧ last = ['\n'] ∧ !indented ∧ !blank then
          (if more.isEmpty then [' '] else more)
        else last ++ more
      let (text, lineEnd) := cursor.takeWhile fun c => !isBreak c
      let (last, start) := takeBreak lineEnd
      (blockBreaks (some indent) start.rest.length [] 0 start).bind fun (more, _, next) =>
        blockLines literal chomping indent fuel (value ++ joint ++ text) last more blank next
    else
      match chomping with
      | .strip => some (value, cursor)
      | .clip => some (value ++ last, cursor)
      | .keep => some (value ++ last ++ more, cursor)

/-- Reads a block from behind its indicator, inside a collection at column `outer` if there is one.
-/
def readBlock (literal : Bool) (outer : Option Nat) (cursor : Cursor) :
    Option (List Char × Cursor) :=
  let (chomping, added, cursor) := blockHeader cursor
  cursor.restOfLine?.bind fun start =>
    let stated := added.map ((outer.getD 0) + ·)
    (blockBreaks stated start.rest.length [] 0 start).bind fun (breaks, widest, first) =>
      let indent := stated.getD (max (max widest ((outer.map (· + 1)).getD 0)) 1)
      blockLines literal chomping indent (first.rest.length + 1) [] [] breaks false first

end ScenarioTables.Yaml
