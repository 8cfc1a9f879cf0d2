import Metastore.Yaml.Lexer
import Metastore.Yaml.Meaning

/-!
# Configuration files

The value of a configuration file in YAML. Files are encoded in UTF-8, and lines may end in any of the usual
ways.
-/

namespace Metastore.Yaml

/-- A text in which every line ends with a line feed. -/
def unifyLines : List Char → List Char
  | '\r' :: '\n' :: rest => '\n' :: unifyLines rest
  | c :: rest => (if c = '\r' then '\n' else c) :: unifyLines rest
  | [] => []

/-- The value of a text; null if it has no document. -/
def ofText (s : String) : Except Problem Value := do
  match ← Node.ofTokens? (Token.ofText (unifyLines s.toList)) with
  | some node => (← node.merged).value
  | none => return .null

/-- The value of a file's contents. -/
def ofBytes (bytes : ByteArray) : Except Problem Value :=
  match String.fromUTF8? bytes with
  | some s => ofText s
  | none => .error .badEncoding

end Metastore.Yaml
