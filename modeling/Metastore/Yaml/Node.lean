import Metastore.Yaml.Schema
import Metastore.Yaml.Token

/-!
# Nodes

The contents of a configuration file as a tree: texts, sequences and mappings, each with its tag. A node may
be named by an anchor, and an alias stands for the node of that name. A file holds at most one document.
-/

namespace Metastore.Yaml

/-- A node. Its tag says what it is. -/
inductive Node where
  | text (tag : String) (text : String)
  | sequence (tag : String) (items : List Node)
  | mapping (tag : String) (entries : List (Node × Node))
deriving Inhabited

namespace Node

/-- The tag of a node. -/
def tag : Node → String
  | text tag _ => tag
  | sequence tag _ => tag
  | mapping tag _ => tag

/-- The node where nothing is written. -/
def empty : Node := text (usualTag "null") ""

/-! ### Reading nodes from tokens -/

/-- The state of reading nodes. -/
structure Reader where
  tokens : List Token
  /-- What the handles of tags stand for. -/
  handles : List (String × String) := []
  /-- The nodes with names; a node that has not been read to its end is missing. -/
  anchors : List (String × Option Node) := []

/-- The actions that read nodes. -/
abbrev Reading := StateT Reader (Except Problem)

/-- What is wrong with a file that does not follow the grammar. -/
def malformed {α : Type} : Reading α := throw .badYaml

/-- The next token; none at the end of the file. -/
def peek : Reading (Option Token) := do
  match (← get).tokens with
  | .failed problem :: _ => throw problem
  | token :: _ => return some token
  | [] => return none

/-- Goes past the next token. -/
def skip : Reading Unit := modify fun s => { s with tokens := s.tokens.drop 1 }

/-- Goes past the next token if it is the given one, and tells whether it was. -/
def accept (token : Token) : Reading Bool := do
  if (← peek) = some token then
    skip
    return true
  else return false

/-- The name that an anchor gives. -/
def takeAnchor : Reading (Option String) := do
  match ← peek with
  | some (.anchor name) =>
    skip
    return some name
  | _ => return none

/-- A tag in full. -/
def fullTag (tag : Tag) : Reading String := do
  match tag.handle with
  | none => return tag.suffix
  | some handle =>
    match (← get).handles.lookup handle with
    | some start => return start ++ tag.suffix
    | none => malformed

/-- The tag that is written here, if there is one. -/
def takeTag : Reading (Option String) := do
  match ← peek with
  | some (.tag tag) =>
    skip
    return some (← fullTag tag)
  | _ => return none

/-- The anchor and the tag in front of a node, in either order. -/
def takeProperties : Reading (Option String × Option String) := do
  match ← takeAnchor with
  | some name => return (some name, ← takeTag)
  | none =>
    let tag ← takeTag
    if tag.isSome then return (← takeAnchor, tag) else return (none, none)

/-- Notes that a name is about to be given; no name is given twice. -/
def declare (anchor : Option String) : Reading Unit := do
  match anchor with
  | none => return ()
  | some name =>
    let s ← get
    if (s.anchors.lookup name).isSome then malformed
    set { s with anchors := (name, none) :: s.anchors }

/-- Gives a name to a node that has been read. -/
def nameNode (anchor : Option String) (node : Node) : Reading Node := do
  match anchor with
  | none => return node
  | some name =>
    modify fun s => { s with anchors := (name, some node) :: s.anchors }
    return node

/-- The tag of a node that is not a text, where none but the empty one may be written. -/
def tagOr (kind : String) (tag : Option String) : String :=
  match tag with
  | none | some "!" => usualTag kind
  | some tag => tag

/-- The tag of a text: a plain one is known by its spelling. -/
def textTag (plain : Bool) (tag : Option String) (s : String) : String :=
  match tag with
  | none => usualTag (if plain then Schema.kindOfLine s else "str")
  | some "!" => usualTag (Schema.kindOfLine s)
  | some tag => tag

/-- Whether nothing is written where the next token is one of these, or the file ends. -/
def isNext (tokens : List Token) : Reading Bool := do
  match ← peek with
  | some token => return tokens.contains token
  | none => return false

mutual

/-- Reads a node. Only some places take block collections, and only some of these take a sequence that is
not indented. -/
def readNode : (fuel : Nat) → (block bare : Bool) → Reading Node
  | 0, _, _ => malformed
  | fuel + 1, block, bare => do
    match ← peek with
    | some (.alias name) =>
      skip
      match (← get).anchors.lookup name with
      | some (some node) => return node
      | _ => malformed
    | _ =>
      let (anchor, tag) ← takeProperties
      declare anchor
      match ← peek with
      | some (.text s plain) =>
        skip
        nameNode anchor (text (textTag plain tag s) s)
      | some .flowSequence =>
        skip
        nameNode anchor (sequence (tagOr "seq" tag) (← readFlowItems fuel true))
      | some .flowMapping =>
        skip
        nameNode anchor (mapping (tagOr "map" tag) (← readFlowEntries fuel true))
      | next =>
        if bare && next = some .item then
          nameNode anchor (sequence (tagOr "seq" tag) (← readItems fuel true))
        else if block && next = some .blockSequence then do
          skip
          nameNode anchor (sequence (tagOr "seq" tag) (← readItems fuel false))
        else if block && next = some .blockMapping then do
          skip
          nameNode anchor (mapping (tagOr "map" tag) (← readEntries fuel))
        else if anchor.isSome || tag.isSome then nameNode anchor (text (textTag true tag "") "")
        else malformed

/-- Reads the items of a block sequence. One that is not indented ends without a sign. -/
def readItems : (fuel : Nat) → (bare : Bool) → Reading (List Node)
  | 0, _ => malformed
  | fuel + 1, bare => do
    if ← accept .item then
      let ends := if bare then [.item, .key, .value, .blockEnd] else [.item, .blockEnd]
      let node ← if ← isNext ends then pure empty else readNode fuel true false
      return node :: (← readItems fuel bare)
    else if bare then return []
    else if ← accept .blockEnd then return []
    else malformed

/-- Reads the entries of a block mapping. -/
def readEntries : (fuel : Nat) → Reading (List (Node × Node))
  | 0 => malformed
  | fuel + 1 => do
    let ends := [.key, .value, .blockEnd]
    if ← accept .key then
      let key ← if ← isNext ends then pure empty else readNode fuel true true
      let value ←
        if ← accept .value then if ← isNext ends then pure empty else readNode fuel true true
        else pure empty
      return (key, value) :: (← readEntries fuel)
    else if ← accept .blockEnd then return []
    else malformed

/-- Reads the items of a sequence in brackets. An item with a key stands for a mapping with one entry. -/
def readFlowItems : (fuel : Nat) → (isFirst : Bool) → Reading (List Node)
  | 0, _ => malformed
  | fuel + 1, isFirst => do
    if ← accept .flowSequenceEnd then return []
    if !isFirst then
      if !(← accept .separator) then malformed
      if ← accept .flowSequenceEnd then return []
    let ends := [.separator, .flowSequenceEnd]
    let node ←
      if ← accept .key then do
        let key ← if ← isNext (.value :: ends) then pure empty else readNode fuel false false
        let value ←
          if ← accept .value then if ← isNext ends then pure empty else readNode fuel false false
          else pure empty
        pure (mapping (usualTag "map") [(key, value)])
      else readNode fuel false false
    return node :: (← readFlowItems fuel false)

/-- Reads the entries of a mapping in braces. A key may stand without a value. -/
def readFlowEntries : (fuel : Nat) → (isFirst : Bool) → Reading (List (Node × Node))
  | 0, _ => malformed
  | fuel + 1, isFirst => do
    if ← accept .flowMappingEnd then return []
    if !isFirst then
      if !(← accept .separator) then malformed
      if ← accept .flowMappingEnd then return []
    let ends := [.separator, .flowMappingEnd]
    let entry ←
      if ← accept .key then do
        let key ← if ← isNext (.value :: ends) then pure empty else readNode fuel false false
        let value ←
          if ← accept .value then if ← isNext ends then pure empty else readNode fuel false false
          else pure empty
        pure (key, value)
      else do
        let key ← readNode fuel false false
        pure (key, empty)
    return entry :: (← readFlowEntries fuel false)

end

/-! ### Documents -/

/-- The handles that need no directive. -/
def usualHandles : List (String × String) := [("!", "!"), ("!!", usualTagStart)]

/-- Reads directives. A document has one version, of the first major version, and each handle once. -/
def readDirectives : (fuel : Nat) → (versioned : Bool) → Reading Unit
  | 0, _ => malformed
  | fuel + 1, versioned => do
    match ← peek with
    | some (.directive (.version major _)) =>
      if versioned || major != 1 then malformed
      skip
      readDirectives fuel true
    | some (.directive (.handle handle start)) =>
      let s ← get
      if (s.handles.lookup handle).isSome then malformed
      set { s with handles := (handle, start) :: s.handles }
      skip
      readDirectives fuel versioned
    | some (.directive .other) =>
      skip
      readDirectives fuel versioned
    | _ => modify fun s => { s with handles := s.handles ++ usualHandles }

/-- Whether the content of a document is missing. -/
def isContentMissing : Reading Bool := do
  match ← peek with
  | none | some (.directive _) | some .documentStart | some .documentEnd => return true
  | _ => return false

/-- Goes past the ends of documents. -/
def skipEnds : (fuel : Nat) → Reading Unit
  | 0 => return ()
  | fuel + 1 => do if ← accept .documentEnd then skipEnds fuel

/-- Reads the only document of a file; an empty file has none. -/
def readDocument (fuel : Nat) : Reading (Option Node) := do
  match ← peek with
  | none => return none
  | some (.directive _) | some .documentStart =>
    readDirectives fuel false
    if !(← accept .documentStart) then malformed
    let node ← if ← isContentMissing then pure empty else readNode fuel true false
    finish node
  | _ =>
    modify fun s => { s with handles := usualHandles }
    finish (← readNode fuel true false)
where
  /-- Nothing may follow a document but its end. -/
  finish (node : Node) : Reading (Option Node) := do
    skipEnds fuel
    if (← peek).isSome then malformed
    return some node

/-- The node that tokens make up, if there is one. -/
def ofTokens? (tokens : List Token) : Except Problem (Option Node) := do
  let (node, _) ← (readDocument (2 * tokens.length + 4)).run { tokens }
  return node

end Node
end Metastore.Yaml
