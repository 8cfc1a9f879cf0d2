import Metastore.Value
import Metastore.Decimal.Layout
import Metastore.Text.Quoted

/-!
# The text of a value

How a value is shown in messages and settings: a text as it is, any other value in a notation with quoted
texts, brackets for lists, parentheses for entries and braces for mappings.
-/

namespace Metastore

/-- The notation of a value that only passes through. -/
def Foreign.text : Foreign → String
  | bytes content => "b" ++ Text.quoteAscii (String.ofList (content.map Char.ofNat))
  | set items => if items.isEmpty then "set()" else "\x7b" ++ ", ".intercalate items ++ "\x7d"

namespace Value

/-- The words for the values that have names. -/
def nullWord : String := "None"

/-- The word for a truth value. -/
def boolWord (b : Bool) : String := if b then "True" else "False"

mutual

/-- A value in notation, where texts are quoted by `quote`. -/
def notationBy (quote : String → String) : Value → String
  | .null => nullWord
  | .bool b => boolWord b
  | .int n => String.ofList (Text.integer n)
  | .float x => Decimal.Layout.plain.render x
  | .text s => quote s
  | .date t => t.fields
  | .foreign f => f.text
  | .list items => "[" ++ ", ".intercalate (notationItems quote items) ++ "]"
  | .entry key value => "(" ++ notationBy quote key ++ ", " ++ notationBy quote value ++ ")"
  | .map entries => "\x7b" ++ ", ".intercalate (notationEntries quote entries) ++ "\x7d"

/-- The items of a list in notation. -/
def notationItems (quote : String → String) : List Value → List String
  | [] => []
  | v :: rest => notationBy quote v :: notationItems quote rest

/-- The entries of a mapping in notation. -/
def notationEntries (quote : String → String) : List (Value × Value) → List String
  | [] => []
  | (k, v) :: rest =>
    (notationBy quote k ++ ": " ++ notationBy quote v) :: notationEntries quote rest

end

/-- A value in notation. -/
def quoted (v : Value) : String := notationBy Text.quote v

/-- A value in ASCII notation. -/
def quotedAscii (v : Value) : String := notationBy Text.quoteAscii v

/-- A value as it is shown: texts as they are, dates in their readable form, the rest in notation. -/
def display : Value → String
  | .text s => s
  | .date t => t.plain
  | v => v.quoted

end Value
end Metastore
