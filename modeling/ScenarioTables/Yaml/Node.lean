import ScenarioTables.Yaml.Token

/-!
# Nodes of a YAML text

A text is at most one node: a scalar, a list or a mapping. A node may carry an anchor, and a
reference elsewhere names the anchor. Each anchor has a number, the count of the different names
before it; a reference keeps the number that its name has where the reference stands, and means the
last node of the text whose anchor has that number. Where a node may be missing, an empty plain
scalar takes its place.
-/

set_option autoImplicit false

namespace ScenarioTables.Yaml

/-- A node. -/
inductive Node where
  /-- A text; it is plain if it was written without quotes and not as a block. -/
  | scalar (text : String) (plain : Bool)
  /-- A reference to the anchors with a number. -/
  | reference (number : Nat)
  | list (items : List Node)
  | mapping (entries : List (Node × Node))

/-- The node that stands where nothing is written. -/
def Node.missing : Node := .scalar "" true

/-- An anchor and the node that carries it. -/
structure Anchor where
  name : String
  number : Nat
  node : Node

/-- A node together with the anchors that references in it can mean, in the order of the text. -/
structure Graph where
  /-- The node of the whole text. -/
  root : Node
  anchors : List Anchor

namespace Graph

/-- What a node means: a reference means the node of the last anchor with its number. -/
def meaning? (graph : Graph) : Node → Option Node
  | .reference number =>
    ((graph.anchors.filter (·.number == number)).getLast?).map (·.node)
  | node => some node

/-- The text of a node that means a scalar. -/
def text? (graph : Graph) (node : Node) : Option String :=
  (graph.meaning? node).bind fun
    | .scalar text _ => some text
    | _ => none

end Graph

/-- What is left to read, and what is known so far. -/
structure Reading where
  tokens : List Token
  /-- The handles that tags can have. -/
  handles : List String
  /-- The different names of anchors so far. -/
  names : List String
  /-- The anchors so far, in the order in which their nodes begin. -/
  anchors : List Anchor

namespace Reading

/-- The reading with other tokens left. -/
def behind (reading : Reading) (tokens : List Token) : Reading :=
  { reading with tokens := tokens }

/-- Notes an anchor before its node is read; answers the anchor's place among the anchors. -/
def openAnchor (reading : Reading) (name : Option String) : Option Nat × Reading :=
  match name with
  | none => (none, reading)
  | some name =>
    (some reading.anchors.length,
      { reading with
        names := reading.names.insert name
        anchors := reading.anchors ++ [⟨name, reading.names.length, .missing⟩] })

/-- Gives the anchor at a place its node. -/
def closeAnchor (reading : Reading) (place : Option Nat) (node : Node) : Reading :=
  match place with
  | none => reading
  | some place =>
    { reading with
      anchors := reading.anchors.modify place fun anchor => { anchor with node := node } }

/-- The reference to the latest anchor of a name. -/
def reference? (reading : Reading) (name : String) : Option Node :=
  ((reading.anchors.filter (·.name == name)).getLast?).map fun anchor => .reference anchor.number

/-- Whether a tag can stand here: its handle is known. -/
def knows (reading : Reading) : Option (Option String) → Bool
  | some (some handle) => reading.handles.contains handle
  | _ => true

end Reading

/-- The anchor and the tag before a node, in either order, and the tokens behind them. -/
def properties : List Token → Option String × Option (Option String) × List Token
  | .anchor name :: .tag handle :: rest => (some name, some handle, rest)
  | .tag handle :: .anchor name :: rest => (some name, some handle, rest)
  | .anchor name :: rest => (some name, none, rest)
  | .tag handle :: rest => (none, some handle, rest)
  | rest => (none, none, rest)

/-- Whether the next token is one of those given; none is left counts as no. -/
def nextIn (tokens : List Token) (stops : List Token) : Bool :=
  match tokens with
  | [] => false
  | token :: _ => stops.contains token

mutual

/-- Reads a node. `block` says whether it may be an indented collection, and `indentless` whether it
may be a list whose entries stand no further in than the key before it. -/
def readNode (block indentless : Bool) : Nat → Reading → Option (Node × Reading)
  | 0, _ => none
  | fuel + 1, reading =>
    match reading.tokens with
    | .alias name :: rest =>
      (reading.reference? name).map fun reference => (reference, reading.behind rest)
    | tokens =>
      let (name, tag, tokens) := properties tokens
      let (place, opened) := (reading.behind tokens).openAnchor name
      if reading.knows tag then
        (readContent block indentless (name.isSome || tag.isSome) fuel opened).map
          fun (node, reading) => (node, reading.closeAnchor place node)
      else none

/-- Reads a node behind its anchor and tag; it may be missing if there are any. -/
def readContent (block indentless mayMiss : Bool) : Nat → Reading → Option (Node × Reading)
  | 0, _ => none
  | fuel + 1, reading =>
    match reading.tokens with
    | .scalar text plain :: rest => some (.scalar text plain, reading.behind rest)
    | .openBracket :: rest =>
      (readFlowItems true fuel (reading.behind rest)).map fun (items, reading) =>
        (.list items, reading)
    | .openBrace :: rest =>
      (readFlowEntries true fuel (reading.behind rest)).map fun (entries, reading) =>
        (.mapping entries, reading)
    | .entry :: _ =>
      if indentless then
        (readLooseItems fuel reading).map fun (items, reading) => (.list items, reading)
      else if mayMiss then some (.missing, reading) else none
    | .listStart :: rest =>
      if block then
        (readItems fuel (reading.behind rest)).map fun (items, reading) => (.list items, reading)
      else if mayMiss then some (.missing, reading) else none
    | .mappingStart :: rest =>
      if block then
        (readEntries fuel (reading.behind rest)).map fun (entries, reading) =>
          (.mapping entries, reading)
      else if mayMiss then some (.missing, reading) else none
    | _ => if mayMiss then some (.missing, reading) else none

/-- Reads a node unless one of the given tokens comes first; then it is missing. -/
def readUnless (stops : List Token) (block indentless : Bool) :
    Nat → Reading → Option (Node × Reading)
  | 0, _ => none
  | fuel + 1, reading =>
    if nextIn reading.tokens stops then some (.missing, reading)
    else readNode block indentless fuel reading

/-- Reads the entries of an indented list up to its end. -/
def readItems : Nat → Reading → Option (List Node × Reading)
  | 0, _ => none
  | fuel + 1, reading =>
    match reading.tokens with
    | .entry :: rest =>
      (readUnless [.entry, .blockEnd] true false fuel (reading.behind rest)).bind
        fun (item, reading) =>
          (readItems fuel reading).map fun (items, reading) => (item :: items, reading)
    | .blockEnd :: rest => some ([], reading.behind rest)
    | _ => none

/-- Reads the entries of a list that is not indented, as long as there are any. -/
def readLooseItems : Nat → Reading → Option (List Node × Reading)
  | 0, _ => none
  | fuel + 1, reading =>
    match reading.tokens with
    | .entry :: rest =>
      (readUnless [.entry, .key, .value, .blockEnd] true false fuel (reading.behind rest)).bind
        fun (item, reading) =>
          (readLooseItems fuel reading).map fun (items, reading) => (item :: items, reading)
    | _ => some ([], reading)

/-- Reads the pairs of an indented mapping up to its end. -/
def readEntries : Nat → Reading → Option (List (Node × Node) × Reading)
  | 0, _ => none
  | fuel + 1, reading =>
    match reading.tokens with
    | .key :: rest =>
      (readUnless [.key, .value, .blockEnd] true true fuel (reading.behind rest)).bind
        fun (key, reading) =>
          (readEntryValue fuel reading).bind fun (value, reading) =>
            (readEntries fuel reading).map fun (entries, reading) =>
              ((key, value) :: entries, reading)
    | .blockEnd :: rest => some ([], reading.behind rest)
    | _ => none

/-- Reads the value of a pair in an indented mapping. -/
def readEntryValue : Nat → Reading → Option (Node × Reading)
  | 0, _ => none
  | fuel + 1, reading =>
    match reading.tokens with
    | .value :: rest => readUnless [.key, .value, .blockEnd] true true fuel (reading.behind rest)
    | _ => some (.missing, reading)

/-- Reads the items of a list in brackets up to the closing bracket. An item that is a key with a
value is a mapping of one pair. -/
def readFlowItems (first : Bool) : Nat → Reading → Option (List Node × Reading)
  | 0, _ => none
  | fuel + 1, reading =>
    match reading.tokens with
    | .closeBracket :: rest => some ([], reading.behind rest)
    | tokens =>
      let behind? := if first then some tokens else
        match tokens with
        | .comma :: rest => some rest
        | _ => none
      match behind? with
      | none => none
      | some (.closeBracket :: rest) => some ([], reading.behind rest)
      | some (.key :: rest) =>
        (readItemKey fuel (reading.behind rest)).bind
          fun (key, reading) =>
            (readFlowValue [.comma, .closeBracket] fuel reading).bind fun (value, reading) =>
              (readFlowItems false fuel reading).map fun (items, reading) =>
                (.mapping [(key, value)] :: items, reading)
      | some tokens =>
        (readNode false false fuel (reading.behind tokens)).bind fun (item, reading) =>
          (readFlowItems false fuel reading).map fun (items, reading) => (item :: items, reading)

/-- Reads the key of a pair that is an item of a list in brackets. If the key is missing, the colon,
comma or bracket that shows this is passed over. -/
def readItemKey : Nat → Reading → Option (Node × Reading)
  | 0, _ => none
  | fuel + 1, reading =>
    match reading.tokens with
    | .value :: rest | .comma :: rest | .closeBracket :: rest =>
      some (.missing, reading.behind rest)
    | _ => readNode false false fuel reading

/-- Reads the value of a pair in a flow collection; it may be missing. -/
def readFlowValue (stops : List Token) : Nat → Reading → Option (Node × Reading)
  | 0, _ => none
  | fuel + 1, reading =>
    match reading.tokens with
    | .value :: rest => readUnless stops false false fuel (reading.behind rest)
    | _ => some (.missing, reading)

/-- Reads the pairs of a mapping in braces up to the closing brace. -/
def readFlowEntries (first : Bool) : Nat → Reading → Option (List (Node × Node) × Reading)
  | 0, _ => none
  | fuel + 1, reading =>
    match reading.tokens with
    | .closeBrace :: rest => some ([], reading.behind rest)
    | tokens =>
      let behind? := if first then some tokens else
        match tokens with
        | .comma :: rest => some rest
        | _ => none
      match behind? with
      | none => none
      | some (.closeBrace :: rest) => some ([], reading.behind rest)
      | some (.key :: rest) =>
        (readUnless [.value, .comma, .closeBrace] false false fuel (reading.behind rest)).bind
          fun (key, reading) =>
            (readFlowValue [.comma, .closeBrace] fuel reading).bind fun (value, reading) =>
              (readFlowEntries false fuel reading).map fun (entries, reading) =>
                ((key, value) :: entries, reading)
      | some tokens =>
        (readNode false false fuel (reading.behind tokens)).bind fun (key, reading) =>
          (readFlowEntries false fuel reading).map fun (entries, reading) =>
            ((key, .missing) :: entries, reading)

end

/-- The directive that a token is. -/
def Token.directive? : Token → Option Directive
  | .directive content => some content
  | _ => none

/-- A document behind its directives and its mark. -/
structure Content where
  tokens : List Token
  /-- The handles that the directives declare. -/
  handles : List String
  /-- Whether there is a mark. -/
  marked : Bool

/-- The content of a text's first document. Directives need a mark behind them, and none of them
stands twice. -/
def Content.ofTokens? (tokens : List Token) : Option Content :=
  let directives := (tokens.takeWhile (·.directive?.isSome)).filterMap (·.directive?)
  match tokens.drop directives.length with
  | .documentStart :: rest =>
    if directives.Nodup then some ⟨rest, directives.filterMap (·.declared?), true⟩ else none
  | rest => if directives.isEmpty then some ⟨rest, [], false⟩ else none

/-- Whether a document ends here: at the end of the text or at what stands only between documents.
-/
def isDocumentEnd : List Token → Bool
  | [] => true
  | token :: _ =>
    token.directive?.isSome || token == .documentStart || token == .documentEnd

/-- Reads the node of a document. Behind a document's mark the node may be missing. -/
def Content.readRoot (content : Content) : Option (Node × Reading) :=
  let reading : Reading := ⟨content.tokens, knownHandles ++ content.handles, [], []⟩
  if content.marked && isDocumentEnd content.tokens then some (.missing, reading)
  else readNode true false (4 * content.tokens.length + 4) reading

/-- The node that a text is, with its anchors: the inner `none` for a text without any document, and
no result for a text that is malformed or holds more than one document. -/
def read? (text : String) : Option (Option Graph) :=
  match tokens? text with
  | none => none
  | some [] => some none
  | some tokens =>
    ((Content.ofTokens? tokens).bind (·.readRoot)).bind fun (root, reading) =>
      if (reading.tokens.dropWhile (· == .documentEnd)).isEmpty then
        some (some ⟨root, reading.anchors⟩)
      else none

end ScenarioTables.Yaml
