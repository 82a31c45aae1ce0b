import ScenarioTables.Yaml.Scalar
import ScenarioTables.Yaml.Tag

/-!
# Tokens of a YAML text

The tokens of a text, with the beginnings and ends of block collections made explicit: a collection
begins where a key or an entry stands further to the right than the collection around it, and ends
where the text goes back to the left. That something is a key is known only at the colon behind it,
so the place of a possible key is remembered and the key token is put there later.
-/

set_option autoImplicit false

namespace ScenarioTables.Yaml

/-- A token. -/
inductive Token where
  /-- A line that begins with a percent sign. -/
  | directive (directive : Directive)
  /-- Three dashes. -/
  | documentStart
  /-- Three dots. -/
  | documentEnd
  | listStart
  | mappingStart
  | blockEnd
  | openBracket
  | closeBracket
  | openBrace
  | closeBrace
  | comma
  /-- The dash of a list entry. -/
  | entry
  | key
  /-- The colon before a value. -/
  | value
  /-- A reference to an anchored node. -/
  | alias (name : String)
  /-- The name of the node that follows. -/
  | anchor (name : String)
  /-- The tag of the node that follows, by its handle. -/
  | tag (handle : Option String)
  /-- A scalar; it is plain if it has neither quotes nor a block indicator. -/
  | scalar (text : String) (plain : Bool)
  deriving DecidableEq, Repr

/-- The place where a key may have begun. -/
structure PossibleKey where
  /-- The number of tokens before it. -/
  position : Nat
  /-- Its place in the text. -/
  index : Nat
  line : Nat
  column : Nat
  /-- Whether nothing but a key can stand there. -/
  required : Bool

/-- How far the tokens of a text are known. -/
structure Scan where
  /-- The place reached. -/
  cursor : Cursor
  /-- The tokens so far. -/
  tokens : List Token
  /-- The columns of the open block collections, innermost first. -/
  columns : List Nat
  /-- Whether a key may begin here. -/
  keyAllowed : Bool
  /-- The possible key at the top level and in each open flow collection, innermost first. -/
  keys : List (Option PossibleKey)

namespace Scan

/-- The scan at the beginning of a text. -/
def start (cs : List Char) : Scan := ⟨.start cs, [], [], true, [none]⟩

/-- Whether a flow collection is open. -/
def inFlow (scan : Scan) : Bool :=
  1 < scan.keys.length

/-- Adds a token. -/
def push (scan : Scan) (token : Token) : Scan :=
  { scan with tokens := scan.tokens ++ [token] }

/-- Puts a token at a position. -/
def pushAt (scan : Scan) (position : Nat) (token : Token) : Scan :=
  { scan with tokens := scan.tokens.take position ++ token :: scan.tokens.drop position }

/-- Replaces the innermost possible key. -/
def setKey (scan : Scan) (key : Option PossibleKey) : Scan :=
  { scan with keys := key :: scan.keys.tail }

/-- The innermost possible key. -/
def key? (scan : Scan) : Option PossibleKey :=
  scan.keys.head?.join

/-- Gives up the innermost possible key; refused where only a key can stand. -/
def dropKey (scan : Scan) : Option Scan :=
  if scan.key?.any (·.required) then none else some (scan.setKey none)

/-- Remembers that a key may begin here. -/
def markKey (scan : Scan) : Option Scan :=
  if scan.keyAllowed then
    let cursor := scan.cursor
    let required := !scan.inFlow && scan.columns.head? == some cursor.column
    scan.dropKey.map fun scan =>
      scan.setKey
        (some ⟨scan.tokens.length, cursor.index, cursor.line, cursor.column, required⟩)
  else some scan

/-- Whether a possible key is too far behind: on an earlier line or more than 1024 octets back. -/
def isStale (cursor : Cursor) (key : PossibleKey) : Bool :=
  key.line < cursor.line || key.index + 1024 < cursor.index

/-- Gives up the possible keys that are too far behind; refused if one of them must be a key. -/
def dropStaleKeys (scan : Scan) : Option Scan :=
  if scan.keys.any fun key => key.any fun key => isStale scan.cursor key && key.required then none
  else some { scan with keys := scan.keys.map (·.filter (!isStale scan.cursor ·)) }

/-- Closes the block collections to the right of a column. -/
def closeTo (column : Nat) (scan : Scan) : Scan :=
  if scan.inFlow then scan
  else
    let closed := scan.columns.takeWhile (column < ·)
    { scan with
      columns := scan.columns.drop closed.length
      tokens := scan.tokens ++ closed.map fun _ => .blockEnd }

/-- Closes all block collections. -/
def closeAll (scan : Scan) : Scan :=
  if scan.inFlow then scan
  else
    { scan with
      columns := []
      tokens := scan.tokens ++ scan.columns.map fun _ => .blockEnd }

/-- Opens a block collection at a column unless one is open there; its first token stands at the
given position. -/
def openAt (column position : Nat) (token : Token) (scan : Scan) : Scan :=
  if !scan.inFlow && (scan.columns.head?.map fun outer => decide (outer < column)).getD true then
    { scan.pushAt position token with columns := column :: scan.columns }
  else scan

/-- Goes to a place behind the next token. -/
def moveTo (scan : Scan) (cursor : Cursor) (keyAllowed : Bool) : Scan :=
  { scan with cursor := cursor, keyAllowed := keyAllowed }

/-- Skips blanks, comments, line ends and a byte order mark at the beginning of a line. A tab does
not count as a blank where a key may begin. -/
def skipGap : Nat → Scan → Scan
  | 0, scan => scan
  | fuel + 1, scan =>
    match scan.cursor.rest with
    | [] => scan
    | c :: _ =>
      if c = ' ' ∨ (c = '\t' ∧ (scan.inFlow ∨ !scan.keyAllowed))
          ∨ (c = '\uFEFF' ∧ scan.cursor.column = 0) then
        skipGap fuel { scan with cursor := scan.cursor.next }
      else if c = '#' then
        skipGap fuel { scan with cursor := scan.cursor.lineEnd }
      else if isBreak c then
        skipGap fuel
          { scan with
            cursor := scan.cursor.nextLine
            keyAllowed := scan.keyAllowed || !scan.inFlow }
      else scan

/-- Reads the mark of a document's beginning or end. -/
def documentMark (token : Token) (scan : Scan) : Option Scan :=
  scan.closeAll.dropKey.map fun scan => (scan.push token).moveTo (scan.cursor.skip 3) false

/-- Reads a directive. -/
def directive (scan : Scan) : Option Scan :=
  scan.closeAll.dropKey.bind fun scan =>
    (readDirective? scan.cursor.next).map fun (directive, cursor) =>
      (scan.push (.directive directive)).moveTo cursor false

/-- Reads an opening bracket or brace. -/
def openFlow (token : Token) (scan : Scan) : Option Scan :=
  scan.markKey.map fun scan =>
    { (scan.push token).moveTo scan.cursor.next true with keys := none :: scan.keys }

/-- Reads a closing bracket or brace. -/
def closeFlow (token : Token) (scan : Scan) : Option Scan :=
  scan.dropKey.map fun scan =>
    let keys := if scan.inFlow then scan.keys.tail else scan.keys
    { (scan.push token).moveTo scan.cursor.next false with keys := keys }

/-- Reads a comma. -/
def comma (scan : Scan) : Option Scan :=
  scan.dropKey.map fun scan => (scan.push .comma).moveTo scan.cursor.next true

/-- Reads the dash of a list entry. -/
def entry (scan : Scan) : Option Scan :=
  if !scan.inFlow && !scan.keyAllowed then none
  else
    let opened := scan.openAt scan.cursor.column scan.tokens.length .listStart
    opened.dropKey.map fun scan => (scan.push .entry).moveTo scan.cursor.next true

/-- Reads the question mark before a key. -/
def explicitKey (scan : Scan) : Option Scan :=
  if !scan.inFlow && !scan.keyAllowed then none
  else
    let opened := scan.openAt scan.cursor.column scan.tokens.length .mappingStart
    opened.dropKey.map fun scan => (scan.push .key).moveTo scan.cursor.next (!scan.inFlow)

/-- Reads the colon before a value, and with it the key before the colon. -/
def value (scan : Scan) : Option Scan :=
  match scan.key? with
  | some key =>
    let keyed := (scan.pushAt key.position .key).openAt key.column key.position .mappingStart
    some (((keyed.setKey none).push .value).moveTo scan.cursor.next false)
  | none =>
    if !scan.inFlow && !scan.keyAllowed then none
    else
      let opened := scan.openAt scan.cursor.column scan.tokens.length .mappingStart
      some ((opened.push .value).moveTo scan.cursor.next (!scan.inFlow))

/-- Reads the name of an anchor or a reference to one. -/
def anchorName (token : String → Token) (scan : Scan) : Option Scan :=
  scan.markKey.bind fun scan =>
    let (name, cursor) := scan.cursor.next.takeWhile isNameChar
    let ended := isGapStart cursor.rest
      || cursor.rest.head?.any fun c => ['?', ':', ',', ']', '\x7d', '%', '@', '\x60'].contains c
    if !name.isEmpty && ended then
      some ((scan.push (token (String.ofList name))).moveTo cursor false)
    else none

/-- Reads a tag. -/
def tag (scan : Scan) : Option Scan :=
  scan.markKey.bind fun scan =>
    (readTag? scan.cursor).bind fun (handle, cursor) =>
      if isGapStart cursor.rest || (scan.inFlow && cursor.rest.head? == some ',') then
        some ((scan.push (.tag handle)).moveTo cursor false)
      else none

/-- Reads a block. -/
def block (literal : Bool) (scan : Scan) : Option Scan :=
  scan.dropKey.bind fun scan =>
    (readBlock literal scan.columns.head? scan.cursor.next).map fun (text, cursor) =>
      (scan.push (.scalar (String.ofList text) false)).moveTo cursor true

/-- Reads a value between quotes. -/
def quotedScalar (read : Nat → List Char → Cursor → Option (List Char × Cursor)) (scan : Scan) :
    Option Scan :=
  scan.markKey.bind fun scan =>
    (read (scan.cursor.rest.length + 1) [] scan.cursor.next).map fun (text, cursor) =>
      (scan.push (.scalar (String.ofList text) false)).moveTo cursor false

/-- Reads a plain value. -/
def plainScalar (scan : Scan) : Option Scan :=
  scan.markKey.bind fun scan =>
    let indent := (scan.columns.head?.map (· + 1)).getD 0
    (readPlain scan.inFlow indent (scan.cursor.rest.length + 1) ⟨[], []⟩ scan.cursor).map
      fun plain =>
        (scan.push (.scalar (String.ofList plain.value) true)).moveTo plain.cursor plain.endsLine

/-- Whether a plain value can begin here. -/
def startsPlain (scan : Scan) : Bool :=
  match scan.cursor.rest with
  | [] => false
  | c :: rest =>
    let next := rest.head?
    !(isBlank c || isBreak c || "-?:,[]\x7b\x7d#&*!|>'\"%@\x60".toList.contains c)
      || (c == '-' && !next.any isBlank)
      || (!scan.inFlow && (c == '?' || c == ':') && !isGapStart rest)

/-- Reads the next token, at a place where one stands. -/
def token (scan : Scan) : Option Scan :=
  match scan.cursor.rest with
  | [] => some scan
  | c :: rest =>
    let alone := isGapStart rest
    if scan.cursor.column = 0 ∧ c = '%' then scan.directive
    else if scan.cursor.isMark ['-', '-', '-'] then scan.documentMark .documentStart
    else if scan.cursor.isMark ['.', '.', '.'] then scan.documentMark .documentEnd
    else if c = '[' then scan.openFlow .openBracket
    else if c = '\x7b' then scan.openFlow .openBrace
    else if c = ']' then scan.closeFlow .closeBracket
    else if c = '\x7d' then scan.closeFlow .closeBrace
    else if c = ',' then scan.comma
    else if c = '-' ∧ alone then scan.entry
    else if c = '?' ∧ (scan.inFlow ∨ alone) then scan.explicitKey
    else if c = ':' ∧ (scan.inFlow ∨ alone) then scan.value
    else if c = '*' then scan.anchorName .alias
    else if c = '&' then scan.anchorName .anchor
    else if c = '!' then scan.tag
    else if c = '|' ∧ !scan.inFlow then scan.block true
    else if c = '>' ∧ !scan.inFlow then scan.block false
    else if c = '\'' then scan.quotedScalar readSingle
    else if c = '"' then scan.quotedScalar readDouble
    else if scan.startsPlain then scan.plainScalar
    else none

/-- Reads all tokens. -/
def run : Nat → Scan → Option (List Token)
  | 0, _ => none
  | fuel + 1, scan =>
    (scan.skipGap (scan.cursor.rest.length + 1)).dropStaleKeys.bind fun scan =>
      let scan := scan.closeTo scan.cursor.column
      if scan.cursor.rest.isEmpty then
        let closed := scan.closeAll
        closed.dropKey.map (·.tokens)
      else scan.token.bind (run fuel)

end Scan

/-- The tokens of a text. -/
def tokens? (text : String) : Option (List Token) :=
  let cs := text.toList
  if cs.all isPermitted then Scan.run (cs.length + 2) (.start cs) else none

end ScenarioTables.Yaml
