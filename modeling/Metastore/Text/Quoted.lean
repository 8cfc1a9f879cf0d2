import Metastore.Text.Digits
import Metastore.Text.Printable

/-!
# Quoted text

A text between quotes, with escapes for the backslash, the quote itself, the common control characters,
and everything that is not shown as it is. Single quotes are used, unless the text holds a single quote and
no double one.
-/

namespace Metastore.Text

/-- The escape of a code point: two, four or eight hexadecimal digits, whichever first suffice. -/
def escapeCode (n : Nat) : List Char :=
  if n < 0x100 then '\\' :: 'x' :: padZeros 2 (hexadecimal n)
  else if n < 0x10000 then '\\' :: 'u' :: padZeros 4 (hexadecimal n)
  else '\\' :: 'U' :: padZeros 8 (hexadecimal n)

/-- A character inside quotes; `shown` tells which characters stand for themselves. -/
def quoteChar (shown : Char → Bool) (quote c : Char) : List Char :=
  if c = quote || c = '\\' then ['\\', c]
  else if c = '\n' then ['\\', 'n']
  else if c = '\r' then ['\\', 'r']
  else if c = '\t' then ['\\', 't']
  else if shown c then [c]
  else escapeCode c.toNat

/-- The quote for a text. -/
def quoteFor (cs : List Char) : Char :=
  if cs.contains '\'' && !cs.contains '"' then '"' else '\''

/-- A text between quotes; `shown` tells which characters stand for themselves. -/
def quoteWith (shown : Char → Bool) (s : String) : String :=
  let quote := quoteFor s.toList
  String.ofList (quote :: s.toList.flatMap (quoteChar shown quote) ++ [quote])

/-- A text between quotes, with its printable characters as they are. -/
def quote (s : String) : String := quoteWith isPrintable s

/-- A text between quotes, in ASCII. -/
def quoteAscii (s : String) : String := quoteWith (fun c => isPrintable c && c.toNat < 128) s

end Metastore.Text
