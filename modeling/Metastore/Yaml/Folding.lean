import Metastore.Json.Reader
import Metastore.Problem
import Metastore.Yaml.Characters

/-!
# Texts in configuration files

The texts that a file can hold: plain, between single or double quotes, and in blocks. A single line break
inside a text is folded into a space, and of several breaks the first is dropped; blocks may also keep their
breaks. Each function reads a text from the front of what follows and gives the rest.
-/

namespace Metastore.Yaml

/-- The breaks at the front of a text, with the blanks around them dropped. A text between quotes cannot go
on beyond its document. -/
def cutBreaks : (fuel : Nat) → List Char → Except Problem (List Char × List Char)
  | 0, _ => .error .badYaml
  | fuel + 1, cs =>
    if atBorder cs then .error .badYaml
    else
      match cutBreak (cs.dropWhile isGap) with
      | ([], rest) => .ok ([], rest)
      | (brk, rest) => do
        let (more, rest) ← cutBreaks fuel rest
        return (brk ++ more, rest)

/-- What a first break and those that follow it amount to. -/
def fold (first more : List Char) : List Char :=
  if first != ['\n'] then first ++ more
  else if more.isEmpty then [' ']
  else more

/-- The blanks and breaks at the front of a text between quotes. -/
def cutQuotedSpace (fuel : Nat) (cs : List Char) : Except Problem (List Char × List Char) :=
  let blanks := cs.takeWhile isGap
  match cs.drop blanks.length with
  | [] => .error .badYaml
  | c :: rest =>
    if isBreak c then do
      let (more, rest) ← cutBreaks fuel rest
      return (fold [asBreak c] more, rest)
    else .ok (blanks, c :: rest)

/-! ### Escapes -/

/-- The character that a short escape stands for. -/
def shortEscape? : Char → Option Char
  | '0' => some '\x00'
  | 'a' => some '\x07'
  | 'b' => some '\x08'
  | 't' | '\t' => some '\t'
  | 'n' => some '\n'
  | 'v' => some '\x0b'
  | 'f' => some '\x0c'
  | 'r' => some '\r'
  | 'e' => some '\x1b'
  | ' ' => some ' '
  | '"' => some '"'
  | '\\' => some '\\'
  | '/' => some '/'
  | 'N' => some '\x85'
  | '_' => some '\xa0'
  | 'L' => some '\u2028'
  | 'P' => some '\u2029'
  | _ => none

/-- The number of digits of a long escape. -/
def escapeWidth? : Char → Option Nat
  | 'x' => some 2
  | 'u' => some 4
  | 'U' => some 8
  | _ => none

/-- The character with a number. A number beyond all characters is a problem of its value, or of its size if
it needs more than 31 bits. -/
def charOfCode (n : Nat) : Except Problem Char :=
  if 0x80000000 ≤ n then .error .outOfRange
  else if 0x110000 ≤ n then .error .badValue
  else .ok (Json.loneUnit n)

/-- The second half of a character that is written as two 16-bit units. -/
def lowUnit? : List Char → Option Nat
  | '\\' :: 'u' :: rest => (Text.readDigits 16 (rest.take 4)).filter Json.isLow
  | _ => none

/-- Reads an escape whose backslash has been read. -/
def readEscape (fuel : Nat) : List Char → Except Problem (List Char × List Char)
  | [] => .error .badYaml
  | c :: rest =>
    match shortEscape? c, escapeWidth? c with
    | some d, _ => .ok ([d], rest)
    | none, some width =>
      match Text.readDigits 16 (rest.take width) with
      | some n =>
        let after := rest.drop width
        if rest.length < width then .error .badYaml
        else
          match (lowUnit? after).filter fun _ => Json.isHigh n with
          | some low => .ok ([Json.joinUnits n low], after.drop 6)
          | none => do return ([← charOfCode n], after)
      | none => .error .badYaml
    | none, none => if isBreak c then cutBreaks fuel rest else .error .badYaml

/-! ### Texts between quotes -/

/-- Reads a text between double quotes whose opening quote has been read. -/
def readDouble : (fuel : Nat) → List Char → Except Problem (List Char × List Char)
  | 0, _ | _, [] => .error .badYaml
  | fuel + 1, c :: rest =>
    if c = '"' then .ok ([], rest)
    else do
      let (piece, rest) ←
        if c = '\\' then readEscape (fuel + 1) rest
        else if isGap c || isBreak c then cutQuotedSpace (fuel + 1) (c :: rest)
        else .ok ([c], rest)
      let (more, rest) ← readDouble fuel rest
      return (piece ++ more, rest)

/-- Reads a text between single quotes whose opening quote has been read. Two quotes stand for one. -/
def readSingle : (fuel : Nat) → List Char → Except Problem (List Char × List Char)
  | 0, _ | _, [] => .error .badYaml
  | fuel + 1, '\'' :: '\'' :: rest => do
    let (more, rest) ← readSingle fuel rest
    return ('\'' :: more, rest)
  | fuel + 1, c :: rest =>
    if c = '\'' then .ok ([], rest)
    else do
      let (piece, rest) ←
        if isGap c || isBreak c then cutQuotedSpace (fuel + 1) (c :: rest) else .ok ([c], rest)
      let (more, rest) ← readSingle fuel rest
      return (piece ++ more, rest)

/-! ### Plain texts -/

/-- Whether a plain text ends here: at a blank, at a colon that ends a key, and inside brackets also at what
separates elements. -/
def endsPlain (inFlow : Bool) : List Char → Bool
  | [] => true
  | c :: rest =>
    isGap c || isBreak c
      || (c = ':' && (atGap rest || (inFlow && ",[]\x7b\x7d".toList.contains (rest.headD ' '))))
      || (inFlow && ",?[]\x7b\x7d".toList.contains c)

/-- The stretch of a plain text up to where it ends. -/
def cutPlainWord (inFlow : Bool) : List Char → List Char × List Char
  | [] => ([], [])
  | c :: rest =>
    if endsPlain inFlow (c :: rest) then ([], c :: rest)
    else
      let (word, rest) := cutPlainWord inFlow rest
      (c :: word, rest)

/-- What stands between two stretches of a plain text. -/
structure PlainSpace where
  /-- What the space amounts to; nothing if the text ends. -/
  text : List Char
  rest : List Char
  /-- The column after the space, if it has a line break. -/
  column : Option Nat

/-- The breaks after the first break of a space, with the column after them. -/
def cutPlainBreaks : List Char → (column : Nat) → Option (List Char) × List Char × Nat
  | [], column => (some [], [], column)
  | c :: rest, column =>
    if c = ' ' then cutPlainBreaks rest (column + 1)
    else if isBreak c then
      if atBorder rest then (none, rest, 0)
      else
        let (more, rest, column) := cutPlainBreaks rest 0
        (more.map (asBreak c :: ·), rest, column)
    else (some [], c :: rest, column)

/-- The space at the front of a text. At the border of a document the text ends. -/
def cutPlainSpace (cs : List Char) : PlainSpace :=
  let spaces := cs.takeWhile (· == ' ')
  match cs.drop spaces.length with
  | [] => ⟨spaces, [], none⟩
  | c :: rest =>
    if isBreak c then
      if atBorder rest then ⟨[], rest, some 0⟩
      else
        match cutPlainBreaks rest 0 with
        | (some more, rest, column) => ⟨fold [asBreak c] more, rest, some column⟩
        | (none, rest, column) => ⟨[], rest, some column⟩
    else ⟨spaces, c :: rest, none⟩

/-- A plain text that was read, with the rest and whether the space after it has a line break. -/
structure Plain where
  text : List Char
  rest : List Char
  broken : Bool

/-- Reads a plain text. Outside brackets, a line that is indented less than `indent` ends it. -/
def readPlain (inFlow : Bool) (indent : Int) : (fuel : Nat) → (before : List Char) → (broken : Bool) →
    List Char → Plain
  | 0, _, broken, cs => ⟨[], cs, broken⟩
  | fuel + 1, before, broken, cs =>
    let (word, rest) := cutPlainWord inFlow cs
    if cs.head? = some '#' || word.isEmpty then ⟨[], cs, broken⟩
    else
      let space := cutPlainSpace rest
      let outdented := !inFlow && (space.column.map fun n => decide ((n : Int) < indent)).getD false
      if space.text.isEmpty || space.rest.head? = some '#' || outdented then
        ⟨before ++ word, space.rest, space.column.isSome⟩
      else
        let more := readPlain inFlow indent fuel space.text space.column.isSome space.rest
        { more with text := before ++ word ++ more.text }

/-! ### Blocks -/

/-- How the breaks at the end of a block are treated. -/
inductive Chomping where
  /-- The last break is kept. -/
  | clip
  /-- No break is kept. -/
  | strip
  /-- All breaks are kept. -/
  | keep
deriving DecidableEq, Repr

/-- The treatment that a sign asks for. -/
def Chomping.ofSign? : Char → Option Chomping
  | '+' => some .keep
  | '-' => some .strip
  | _ => none

/-- The signs after the start of a block: how its end is treated, and by how much it is indented, in either
order. -/
def readBlockSigns (cs : List Char) : Except Problem (Chomping × Option Nat × List Char) := do
  let digit (cs : List Char) : Option (Nat × List Char) :=
    match cs with
    | c :: rest => if Text.isDigit c then (Text.readDigits 10 [c]).map (·, rest) else none
    | [] => none
  let sign (cs : List Char) : Option (Chomping × List Char) :=
    match cs with
    | c :: rest => (Chomping.ofSign? c).map (·, rest)
    | [] => none
  let (chomping, increment, rest) :=
    match sign cs with
    | some (chomping, rest) =>
      match digit rest with
      | some (n, rest) => (chomping, some n, rest)
      | none => (chomping, none, rest)
    | none =>
      match digit cs with
      | some (n, rest) =>
        match sign rest with
        | some (chomping, rest) => (chomping, some n, rest)
        | none => (.clip, some n, rest)
      | none => (.clip, none, cs)
  if increment = some 0 || !atSpace rest then throw .badYaml
  return (chomping, increment, rest)

/-- The rest of a line, which may hold spaces and a comment. -/
def cutLineRest (cs : List Char) : Except Problem (List Char) :=
  let cs := cs.dropWhile (· == ' ')
  let cs := if cs.head? = some '#' then cs.dropWhile (!isBreak ·) else cs
  if atLineEnd cs then .ok (cutBreak cs).2 else .error .badYaml

/-- The breaks in front of a block whose indentation is not given, and the deepest indentation among its
empty lines and its first line. -/
def cutLeading : List Char → (column deepest : Nat) → List Char × Nat × Nat × List Char
  | [], column, deepest => ([], column, deepest, [])
  | c :: rest, column, deepest =>
    if c = ' ' then cutLeading rest (column + 1) (max deepest (column + 1))
    else if isBreak c then
      let (breaks, column, deepest, rest) := cutLeading rest 0 deepest
      (asBreak c :: breaks, column, deepest, rest)
    else ([], column, deepest, c :: rest)

/-- The breaks in front of a line of a block, with the column that is reached: spaces up to the indentation
are dropped. -/
def cutIndented (indent : Nat) : List Char → (column : Nat) → List Char × Nat × List Char
  | [], column => ([], column, [])
  | c :: rest, column =>
    if c = ' ' && column < indent then cutIndented indent rest (column + 1)
    else if isBreak c then
      let (breaks, column, rest) := cutIndented indent rest 0
      (asBreak c :: breaks, column, rest)
    else ([], column, c :: rest)

/-- Reads the lines of a block, where `breaks` stand in front of the first. -/
def readBlockLines (folded : Bool) (chomping : Chomping) (indent : Nat) :
    (fuel : Nat) → (breaks : List Char) → List Char → List Char × List Char
  | 0, _, cs => ([], cs)
  | fuel + 1, breaks, cs =>
    let line := cs.takeWhile (!isBreak ·)
    let (brk, rest) := cutBreak (cs.drop line.length)
    let (more, column, rest) := cutIndented indent rest 0
    if !brk.isEmpty && column = indent && !rest.isEmpty then
      let flush := fun (cs : List Char) => !(cs.head?.any isGap)
      let joint :=
        if folded && brk = ['\n'] && flush line && flush rest then if more.isEmpty then [' '] else []
        else brk
      let (text, rest) := readBlockLines folded chomping indent fuel more rest
      (breaks ++ line ++ joint ++ text, rest)
    else
      let tail := match chomping with
        | .clip => brk
        | .strip => []
        | .keep => brk ++ more
      (breaks ++ line ++ tail, rest)

/-- Reads a block whose sign has been read, inside a collection that is indented by `outer`. -/
def readBlock (folded : Bool) (outer : Int) (cs : List Char) : Except Problem (List Char × List Char) := do
  let (chomping, increment, rest) ← readBlockSigns cs
  let rest ← cutLineRest rest
  let least := (max (outer + 1) 1).toNat
  let (breaks, column, indent, rest) :=
    match increment with
    | some n =>
      let indent := least + n - 1
      let (breaks, column, rest) := cutIndented indent rest 0
      (breaks, column, indent, rest)
    | none =>
      let (breaks, column, deepest, rest) := cutLeading rest 0 0
      (breaks, column, max least deepest, rest)
  if column = indent && !rest.isEmpty then
    return readBlockLines folded chomping indent (rest.length + 1) breaks rest
  else return (if chomping = .keep then breaks else [], rest)

end Metastore.Yaml
