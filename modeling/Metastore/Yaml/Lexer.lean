import Metastore.Yaml.Folding
import Metastore.Yaml.Token

/-!
# Reading tokens

Reads the tokens of a configuration file. The indentation of a line ends the block collections that are
indented more. A key without a sign of its own shows only by the colon after it; until the colon is met, the
place where the key would start is kept as a possible key, on the same line and at most 1024 characters
back.
-/

namespace Metastore.Yaml

/-- A place where a key may start. -/
structure PossibleKey where
  /-- How many brackets are open there. -/
  depth : Nat
  /-- The number of tokens before it. -/
  position : Nat
  /-- Whether there has to be a key. -/
  required : Bool
  index : Nat
  line : Nat
  column : Nat
deriving DecidableEq, Repr

/-- The state of reading tokens. -/
structure Lexer where
  rest : List Char
  index : Nat := 0
  line : Nat := 0
  column : Nat := 0
  /-- How many brackets are open. -/
  depth : Nat := 0
  /-- The indentation of the innermost block collection. -/
  indent : Int := -1
  /-- The indentations of the block collections around it. -/
  outer : List Int := []
  /-- Whether a key may start here. -/
  keyAllowed : Bool := true
  keys : List PossibleKey := []
  /-- The tokens so far, the last one first. -/
  tokens : List Token := []

namespace Lexer

/-- Moves past one character. -/
def step (s : Lexer) : Lexer :=
  match s.rest with
  | [] => s
  | c :: rest =>
    let s := { s with rest, index := s.index + 1 }
    if isBreak c then { s with line := s.line + 1, column := 0 }
    else if c = byteOrderMark then s
    else { s with column := s.column + 1 }

/-- Moves past several characters. -/
def advance : Nat → Lexer → Lexer
  | 0, s => s
  | n + 1, s => advance n s.step

/-- Moves to a later part of the text. -/
def moveTo (s : Lexer) (rest : List Char) : Lexer := s.advance (s.rest.length - rest.length)

/-- Adds a token. -/
def emit (s : Lexer) (token : Token) : Lexer := { s with tokens := token :: s.tokens }

/-- Adds a token after the first tokens. -/
def emitAt (s : Lexer) (position : Nat) (token : Token) : Lexer :=
  { s with tokens := s.tokens.insertIdx (s.tokens.length - position) token }

/-! ### Indentation -/

/-- Ends the block collections that are indented more than `column`. -/
def unwindFrom : (indent : Int) → (outer : List Int) → (column : Int) → Lexer → Lexer
  | indent, [], _, s => { s with indent, outer := [] }
  | indent, next :: outer, column, s =>
    if column < indent then unwindFrom next outer column (s.emit .blockEnd)
    else { s with indent, outer := next :: outer }

/-- Ends the block collections that are indented more than `column`, outside brackets. -/
def unwind (s : Lexer) (column : Int) : Lexer :=
  if s.depth = 0 then unwindFrom s.indent s.outer column s else s

/-- Whether a block collection at a column would be indented more than the innermost one. -/
def isDeeper (s : Lexer) (column : Nat) : Bool := s.indent < column

/-- Makes a column the indentation of a new innermost block collection. -/
def indentTo (s : Lexer) (column : Nat) : Lexer :=
  { s with outer := s.indent :: s.outer, indent := column }

/-- Starts a block collection here, if it is indented more than the innermost one. -/
def startBlock (s : Lexer) (token : Token) : Lexer :=
  if s.depth = 0 && s.isDeeper s.column then (s.indentTo s.column).emit token else s

/-! ### Possible keys -/

/-- Gives up possible keys that the colon can no longer follow. -/
def dropStale (s : Lexer) : Except Problem Lexer :=
  let isStale (k : PossibleKey) : Bool := k.line != s.line || 1024 < s.index - k.index
  if s.keys.any fun k => isStale k && k.required then .error .badYaml
  else .ok { s with keys := s.keys.filter (!isStale ·) }

/-- Gives up the possible key at the current depth. -/
def dropKey (s : Lexer) : Except Problem Lexer :=
  if s.keys.any fun k => k.depth = s.depth && k.required then .error .badYaml
  else .ok { s with keys := s.keys.filter (·.depth != s.depth) }

/-- Notes that a key may start here. -/
def noteKey (s : Lexer) : Except Problem Lexer :=
  if !s.keyAllowed then .ok s
  else do
    let required := s.depth = 0 && s.indent = s.column
    let s ← s.dropKey
    let key : PossibleKey :=
      { depth := s.depth, position := s.tokens.length, required, index := s.index, line := s.line
        column := s.column }
    return { s with keys := key :: s.keys }

/-! ### Directives -/

/-- A number at the front of a text. -/
def cutNumber (cs : List Char) : Except Problem (Nat × List Char) :=
  match Text.readDigits 10 (cs.takeWhile Text.isDigit) with
  | some n => .ok (n, cs.dropWhile Text.isDigit)
  | none => .error .badYaml

/-- The bytes of escapes at the front of a tag, each written as a percent sign and two digits. -/
def cutTagBytes : List Char → List UInt8 × List Char
  | '%' :: a :: b :: rest =>
    match Text.readDigits 16 [a, b] with
    | some n =>
      let (more, rest) := cutTagBytes rest
      (UInt8.ofNat n :: more, rest)
    | none => ([], '%' :: a :: b :: rest)
  | cs => ([], cs)

/-- The characters of a tag. -/
def cutTagText : (fuel : Nat) → List Char → Except Problem (List Char × List Char)
  | 0, cs => .ok ([], cs)
  | _, [] => .ok ([], [])
  | fuel + 1, c :: rest =>
    if c = '%' then
      match cutTagBytes (c :: rest) with
      | ([], _) => .error .badYaml
      | (bytes, rest) =>
        match String.fromUTF8? ⟨bytes.toArray⟩ with
        | some s => do
          let (more, rest) ← cutTagText fuel rest
          return (s.toList ++ more, rest)
        | none => .error .badYaml
    else if isTagChar c then do
      let (more, rest) ← cutTagText fuel rest
      return (c :: more, rest)
    else .ok ([], c :: rest)

/-- The characters of a tag, of which there has to be one. -/
def cutTag (cs : List Char) : Except Problem (List Char × List Char) := do
  let (text, rest) ← cutTagText (cs.length + 1) cs
  if rest.length = cs.length then throw .badYaml
  return (text, rest)

/-- A handle of tags: an exclamation mark, or a name between two of them. -/
def cutHandle : List Char → Except Problem (List Char × List Char)
  | '!' :: rest =>
    let name := rest.takeWhile isNameChar
    match rest.drop name.length with
    | '!' :: after => .ok ('!' :: name ++ ['!'], after)
    | after => if rest.head? = some ' ' then .ok (['!'], after) else .error .badYaml
  | _ => .error .badYaml

/-- Text without the spaces in front. -/
def skipSpaces (cs : List Char) : List Char := cs.dropWhile (· == ' ')

/-- Reads a directive whose percent sign has been read. -/
def readDirective (cs : List Char) : Except Problem (Directive × List Char) := do
  let name := cs.takeWhile isNameChar
  let rest := cs.drop name.length
  if name.isEmpty || !atSpace rest then throw .badYaml
  if name = "YAML".toList then
    let (major, rest) ← cutNumber (skipSpaces rest)
    match rest with
    | '.' :: rest =>
      let (minor, rest) ← cutNumber rest
      if !atSpace rest then throw .badYaml
      return (.version major minor, ← cutLineRest rest)
    | _ => throw .badYaml
  else if name = "TAG".toList then
    let (handle, rest) ← cutHandle (skipSpaces rest)
    if rest.head? != some ' ' then throw .badYaml
    let (tagStart, rest) ← cutTag (skipSpaces rest)
    if !atSpace rest then throw .badYaml
    return (.handle (String.ofList handle) (String.ofList tagStart), ← cutLineRest rest)
  else return (.other, ← cutLineRest (rest.dropWhile (!isBreak ·)))

/-! ### Anchors and tags -/

/-- Whether a name may end here. -/
def endsName (cs : List Char) : Bool := atGap cs || "?:,]\x7d%@\x60".toList.contains (cs.headD ' ')

/-- Reads the name of an anchor. -/
def readName (cs : List Char) : Except Problem (String × List Char) :=
  let name := cs.takeWhile isNameChar
  let rest := cs.drop name.length
  if name.isEmpty || !endsName rest then .error .badYaml else .ok (String.ofList name, rest)

/-- Reads a tag that starts here. -/
def readTag (cs : List Char) : Except Problem (Tag × List Char) := do
  let (tag, rest) ← match cs with
    | '!' :: '<' :: rest =>
      let (suffix, rest) ← cutTag rest
      match rest with
      | '>' :: rest => pure (⟨none, String.ofList suffix⟩, rest)
      | _ => throw .badYaml
    | '!' :: rest =>
      if atGap rest then pure (⟨none, "!"⟩, rest)
      else if (rest.takeWhile fun c => c != ' ' && !isBreak c).contains '!' then
        let (handle, rest) ← cutHandle cs
        let (suffix, rest) ← cutTag rest
        pure (⟨some (String.ofList handle), String.ofList suffix⟩, rest)
      else
        let (suffix, rest) ← cutTag rest
        pure (⟨some "!", String.ofList suffix⟩, rest)
    | _ => throw .badYaml
  if !atSpace rest then throw .badYaml
  return (tag, rest)

/-! ### Tokens -/

/-- Moves to the next token: past spaces, comments and line breaks. Outside brackets a new line may start
with a key. -/
def skipToToken : (fuel : Nat) → Lexer → Lexer
  | 0, s => s
  | fuel + 1, s =>
    let cs := skipSpaces s.rest
    let cs := if cs.head? = some '#' then cs.dropWhile (!isBreak ·) else cs
    match cs with
    | c :: rest =>
      if isBreak c then
        let s := s.moveTo rest
        skipToToken fuel (if s.depth = 0 then { s with keyAllowed := true } else s)
      else s.moveTo cs
    | [] => s.moveTo []

/-- Reads a sign of some characters. -/
def sign (s : Lexer) (length : Nat) (token : Token) : Lexer := (s.advance length).emit token

/-- Reads what may be a key: notes where it starts, and reads a token with `read`. -/
def readNode (s : Lexer) (read : List Char → Except Problem (Token × List Char)) : Except Problem Lexer := do
  let s ← s.noteKey
  let (token, rest) ← read s.rest
  return ({ s with keyAllowed := false }.moveTo rest).emit token

/-- Reads a plain text. -/
def readPlainText (s : Lexer) : Except Problem Lexer := do
  let s ← s.noteKey
  let plain := readPlain (s.depth != 0) (s.indent + 1) (s.rest.length + 1) [] false s.rest
  let s := { s with keyAllowed := plain.broken }
  return (s.moveTo plain.rest).emit (.text (String.ofList plain.text) true)

/-- Reads a block. -/
def readBlockText (s : Lexer) (folded : Bool) : Except Problem Lexer := do
  let s ← { s with keyAllowed := true }.dropKey
  let (text, rest) ← readBlock folded s.indent (s.rest.drop 1)
  return (s.moveTo rest).emit (.text (String.ofList text) false)

/-- Reads an opening bracket. -/
def openBracket (s : Lexer) (token : Token) : Except Problem Lexer := do
  let s ← s.noteKey
  return { s with depth := s.depth + 1, keyAllowed := true }.sign 1 token

/-- Reads a closing bracket. -/
def closeBracket (s : Lexer) (token : Token) : Except Problem Lexer := do
  let s ← s.dropKey
  return { s with depth := s.depth - 1, keyAllowed := false }.sign 1 token

/-- Ends all block collections and gives up possible keys. -/
def endBlocks (s : Lexer) : Except Problem Lexer := do
  let s ← (s.unwind (-1)).dropKey
  return { s with keyAllowed := false }

/-- Reads what precedes an item of a block sequence. -/
def readItem (s : Lexer) : Except Problem Lexer := do
  if s.depth = 0 && !s.keyAllowed then throw .badYaml
  let s ← { s.startBlock .blockSequence with keyAllowed := true }.dropKey
  return s.sign 1 .item

/-- Reads the sign in front of a key. -/
def readKey (s : Lexer) : Except Problem Lexer := do
  if s.depth = 0 && !s.keyAllowed then throw .badYaml
  let s ← { s.startBlock .blockMapping with keyAllowed := s.depth = 0 }.dropKey
  return s.sign 1 .key

/-- Reads the colon in front of a value. If a key may have started at the current depth, it did. -/
def readValue (s : Lexer) : Except Problem Lexer :=
  match s.keys.find? (·.depth = s.depth) with
  | some key =>
    let s := { s with keys := s.keys.filter (·.depth != s.depth), keyAllowed := false }
    let s := s.emitAt key.position .key
    let s :=
      if s.depth = 0 && s.isDeeper key.column then
        (s.indentTo key.column).emitAt key.position .blockMapping
      else s
    .ok (s.sign 1 .value)
  | none =>
    if s.depth = 0 && !s.keyAllowed then .error .badYaml
    else do
      let s ← { s.startBlock .blockMapping with keyAllowed := s.depth = 0 }.dropKey
      return s.sign 1 .value

/-- Whether a plain text may start here. -/
def startsPlain (inFlow : Bool) : List Char → Bool
  | [] => false
  | c :: rest =>
    !(isGap c || isBreak c || "-?:,[]\x7b\x7d#&*!|>'\"%@\x60".toList.contains c)
      || (!atGap rest && (c = '-' || (!inFlow && (c = '?' || c = ':'))))

/-- Reads the token whose first character is `c`. -/
def readToken (s : Lexer) (c : Char) (rest : List Char) : Except Problem Lexer :=
  let atStart := s.column = 0
  let inFlow := s.depth != 0
  let quoted := fun (read : Nat → List Char → Except Problem (List Char × List Char)) (cs : List Char) =>
    (read (cs.length + 1) (cs.drop 1)).map fun (text, rest) => (Token.text (String.ofList text) false, rest)
  let named := fun (token : String → Token) (cs : List Char) =>
    (readName (cs.drop 1)).map fun (name, rest) => (token name, rest)
  if c = '%' && atStart then do
    let s ← s.endBlocks
    let (directive, rest) ← readDirective rest
    return (s.moveTo rest).emit (.directive directive)
  else if atStart && atMark '-' s.rest then do return (← s.endBlocks).sign 3 .documentStart
  else if atStart && atMark '.' s.rest then do return (← s.endBlocks).sign 3 .documentEnd
  else if c = '[' then s.openBracket .flowSequence
  else if c = '\x7b' then s.openBracket .flowMapping
  else if c = ']' then s.closeBracket .flowSequenceEnd
  else if c = '\x7d' then s.closeBracket .flowMappingEnd
  else if c = ',' then do return (← { s with keyAllowed := true }.dropKey).sign 1 .separator
  else if c = '-' && atGap rest then s.readItem
  else if c = '?' && (inFlow || atGap rest) then s.readKey
  else if c = ':' && (inFlow || atGap rest) then s.readValue
  else if c = '*' then s.readNode (named .alias)
  else if c = '&' then s.readNode (named .anchor)
  else if c = '!' then s.readNode fun cs => (readTag cs).map fun (tag, rest) => (.tag tag, rest)
  else if c = '|' && !inFlow then s.readBlockText false
  else if c = '>' && !inFlow then s.readBlockText true
  else if c = '\'' then s.readNode (quoted readSingle)
  else if c = '"' then s.readNode (quoted readDouble)
  else if startsPlain inFlow (c :: rest) then s.readPlainText
  else .error .badYaml

/-- Reads the remaining tokens. -/
def readAll : (fuel : Nat) → Lexer → List Token
  | 0, s => s.tokens.reverse
  | fuel + 1, s =>
    let s := s.skipToToken (s.rest.length + 1)
    let next : Except Problem Lexer := do
      let s ← s.dropStale
      let s := s.unwind s.column
      match s.rest with
      | [] => (s.unwind (-1)).dropKey
      | c :: rest => s.readToken c rest
    match next with
    | .error problem => (.failed problem :: s.tokens).reverse
    | .ok after => if s.rest.isEmpty then after.tokens.reverse else readAll fuel after

end Lexer

/-- The tokens of a text. -/
def Token.ofText (cs : List Char) : List Token :=
  let s : Lexer := { rest := cs }
  let s := if cs.head? = some byteOrderMark then s.step else s
  if cs.all isAllowed then s.readAll (cs.length + 2) else [.failed .badYaml]

end Metastore.Yaml
