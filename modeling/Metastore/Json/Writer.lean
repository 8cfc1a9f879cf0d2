import Metastore.Problem
import Metastore.Value
import Metastore.Decimal.Layout

/-!
# Writing JSON

Values as JSON text, with a comma and a space between elements and a colon and a space after keys. A `Style`
says whether the text is kept in ASCII and whether the entries of a mapping are sorted by key. In ASCII,
characters beyond U+FFFF are written as two escapes.
-/

namespace Metastore.Json

/-- The choices of a writer. -/
structure Style where
  /-- Escape every character that is not a printable ASCII character. -/
  asciiOnly : Bool
  /-- Write the entries of a mapping in the order of their keys: of the texts that stand for the keys, which
  is the order of the keys themselves where these are texts. Writers that compare the keys as they are differ
  for keys of other types. -/
  sortKeys : Bool
deriving DecidableEq, Repr

/-- The style of stored documents: equal documents have the same text, whatever the order of entries. -/
def Style.canonical : Style := ⟨true, true⟩

/-- One 16-bit unit as an escape. -/
def escapeUnit (n : Nat) : List Char := '\\' :: 'u' :: Text.padZeros 4 (Text.hexadecimal n)

/-- A character as one escape, or as two if it needs two 16-bit units. -/
def escapeUnits (c : Char) : List Char :=
  let n := c.toNat
  if n < 0x10000 then escapeUnit n
  else escapeUnit (0xD800 + (n - 0x10000) / 0x400) ++ escapeUnit (0xDC00 + (n - 0x10000) % 0x400)

/-- A character inside a JSON string. -/
def writeChar (asciiOnly : Bool) (c : Char) : List Char :=
  if c = '"' then ['\\', '"']
  else if c = '\\' then ['\\', '\\']
  else if c = '\n' then ['\\', 'n']
  else if c = '\r' then ['\\', 'r']
  else if c = '\t' then ['\\', 't']
  else if c = '\x0c' then ['\\', 'f']
  else if c = '\x08' then ['\\', 'b']
  else if c.toNat < 32 then escapeUnit c.toNat
  else if asciiOnly && c.toNat > 126 then escapeUnits c
  else [c]

/-- A text as a JSON string. -/
def writeText (asciiOnly : Bool) (s : String) : List Char :=
  '"' :: s.toList.flatMap (writeChar asciiOnly) ++ ['"']

/-- The text that stands for a value used as a key. -/
def keyText : Value → Except Problem String
  | .text s => .ok s
  | .null => .ok "null"
  | .bool b => .ok (if b then "true" else "false")
  | .int n => .ok (String.ofList (Text.integer n))
  | .float x => .ok (Decimal.Layout.json.render x)
  | _ => .error .wrongType

/-- The pieces of a list or mapping with commas between them. -/
def separated : List (List Char) → List Char
  | [] => []
  | [piece] => piece
  | piece :: more => piece ++ [',', ' '] ++ separated more

/-- The entries of a mapping, each with the text of its key and its own text, in the style's order. -/
def arrange (style : Style) (entries : List (String × List Char)) : List (String × List Char) :=
  if style.sortKeys then entries.mergeSort (fun a b => decide (a.1 ≤ b.1)) else entries

mutual

/-- A value as JSON. -/
def write (style : Style) : Value → Except Problem (List Char)
  | .null => .ok "null".toList
  | .bool b => .ok (if b then "true" else "false").toList
  | .int n => .ok (Text.integer n)
  | .float x => .ok (Decimal.Layout.json.render x).toList
  | .text s => .ok (writeText style.asciiOnly s)
  | .list items => do return '[' :: separated (← writeItems style items) ++ [']']
  | .entry key value => do return '[' :: separated [← write style key, ← write style value] ++ [']']
  | .map entries => do
    let written := arrange style (← writeEntries style entries)
    return '\x7b' :: separated (written.map (·.2)) ++ ['\x7d']
  | .date _ | .foreign _ => .error .wrongType

/-- The items of a list as JSON. -/
def writeItems (style : Style) : List Value → Except Problem (List (List Char))
  | [] => .ok []
  | v :: rest => do return (← write style v) :: (← writeItems style rest)

/-- The entries of a mapping as JSON, each beside the text of its key. -/
def writeEntries (style : Style) : List (Value × Value) → Except Problem (List (String × List Char))
  | [] => .ok []
  | (k, v) :: rest => do
    let key ← keyText k
    let value ← write style v
    return (key, writeText style.asciiOnly key ++ [':', ' '] ++ value) :: (← writeEntries style rest)

end

/-- A value as a JSON text. -/
def encode (style : Style) (v : Value) : Except Problem String := do
  return String.ofList (← write style v)

end Metastore.Json
