import Metastore.Problem
import Metastore.Value.Mapping
import Metastore.Text.Digits

/-!
# Reading JSON

Values from JSON text. White space may surround the value; the words `NaN`, `Infinity` and `-Infinity` are
numbers; a number is an integer unless it has a fraction or an exponent; the last of several entries with
one key gives the value; control characters in strings are refused. Two escapes that form a surrogate pair
are one character, and half a pair stands for U+FFFD.
-/

namespace Metastore.Json

/-- The white space of JSON. -/
def isSpace (c : Char) : Bool := c = ' ' || c = '\t' || c = '\n' || c = '\r'

/-- A text without the white space in front of it. -/
def skipSpace (cs : List Char) : List Char := cs.dropWhile isSpace

/-! ### Strings -/

/-- The 16-bit unit written by four hexadecimal digits. -/
def unit? (a b c d : Char) : Option Nat := Text.readDigits 16 [a, b, c, d]

/-- The character that a single escape letter stands for. -/
def simpleEscape? : Char → Option Char
  | '"' => some '"'
  | '\\' => some '\\'
  | '/' => some '/'
  | 'b' => some '\x08'
  | 'f' => some '\x0c'
  | 'n' => some '\n'
  | 'r' => some '\r'
  | 't' => some '\t'
  | _ => none

/-- A part of a string: a character, or a 16-bit unit written as an escape. -/
inductive Piece where
  | char (c : Char)
  | unit (n : Nat)
deriving DecidableEq, Repr

/-- A unit that may begin a surrogate pair. -/
def isHigh (n : Nat) : Bool := 0xD800 ≤ n && n < 0xDC00

/-- A unit that may end a surrogate pair. -/
def isLow (n : Nat) : Bool := 0xDC00 ≤ n && n < 0xE000

/-- The character of a surrogate pair. -/
def joinUnits (high low : Nat) : Char := Char.ofNat (0x10000 + (high - 0xD800) * 0x400 + (low - 0xDC00))

/-- The character of a unit that is not half of a pair. -/
def loneUnit (n : Nat) : Char := if isHigh n || isLow n then '\uFFFD' else Char.ofNat n

/-- The characters of a string, with surrogate pairs joined. -/
def joinPieces : List Piece → List Char
  | [] => []
  | .char c :: rest => c :: joinPieces rest
  | .unit n :: .unit m :: rest =>
    if isHigh n && isLow m then joinUnits n m :: joinPieces rest
    else loneUnit n :: joinPieces (.unit m :: rest)
  | .unit n :: rest => loneUnit n :: joinPieces rest

/-- Reads the rest of a string whose opening quote has been read: its parts, and what follows the closing
quote. -/
def readPieces : List Char → Option (List Piece × List Char)
  | [] => none
  | '"' :: rest => some ([], rest)
  | '\\' :: 'u' :: a :: b :: c :: d :: rest => do
    let n ← unit? a b c d
    let (pieces, after) ← readPieces rest
    return (.unit n :: pieces, after)
  | '\\' :: c :: rest => do
    let x ← simpleEscape? c
    let (pieces, after) ← readPieces rest
    return (.char x :: pieces, after)
  | c :: rest =>
    if c.toNat < 32 || c = '\\' then none
    else do
      let (pieces, after) ← readPieces rest
      return (.char c :: pieces, after)

/-- Reads the rest of a string whose opening quote has been read. -/
def readText (cs : List Char) : Option (List Char × List Char) :=
  (readPieces cs).map fun (pieces, after) => (joinPieces pieces, after)

/-! ### Numbers -/

/-- The digits at the front. -/
def takeDigits (cs : List Char) : List Char × List Char := cs.span Text.isDigit

/-- A fraction: a point and at least one digit. -/
def readFraction : List Char → Option (List Char × List Char)
  | '.' :: rest =>
    match takeDigits rest with
    | ([], _) => none
    | (digits, after) => some (digits, after)
  | _ => none

/-- An exponent: a letter, a sign that may be missing, and at least one digit. -/
def readExponent : List Char → Option (Int × List Char)
  | c :: rest =>
    if c = 'e' || c = 'E' then
      let (negative, rest) := match rest with
        | '-' :: r => (true, r)
        | '+' :: r => (false, r)
        | r => (false, r)
      match takeDigits rest with
      | ([], _) => none
      | (digits, after) => do
        let n ← Text.readDigits 10 digits
        return (if negative then -(n : Int) else n, after)
    else none
  | [] => none

/-- An unsigned number: digits without needless zeros in front, then a fraction and an exponent, each of
which may be missing. -/
def readUnsigned (negative : Bool) (cs : List Char) : Option (Value × List Char) := do
  let (whole, rest) := match cs with
    | '0' :: r => (['0'], r)
    | _ => takeDigits cs
  let n ← Text.readDigits 10 whole
  match readFraction rest with
  | none =>
    match readExponent rest with
    | none => return (.int (if negative then -(n : Int) else n), rest)
    | some (e, after) => return (.float (Double.ofDecimal negative n e), after)
  | some (digits, rest) =>
    let m ← Text.readDigits 10 (whole ++ digits)
    match readExponent rest with
    | none => return (.float (Double.ofDecimal negative m (-digits.length)), rest)
    | some (e, after) => return (.float (Double.ofDecimal negative m (e - digits.length)), after)

/-! ### Values -/

/-- Reads a word. -/
def word? (w : String) (v : Value) (cs : List Char) : Option (Value × List Char) :=
  (w.toList.isPrefixOf? cs).map (v, ·)

/-- Reads a value that is a word or a number. -/
def readAtom (cs : List Char) : Option (Value × List Char) :=
  match cs with
  | 'n' :: _ => word? "null" .null cs
  | 't' :: _ => word? "true" (.bool true) cs
  | 'f' :: _ => word? "false" (.bool false) cs
  | 'N' :: _ => word? "NaN" (.float .nan) cs
  | 'I' :: _ => word? "Infinity" (.float (.infinity false)) cs
  | '-' :: 'I' :: _ => word? "-Infinity" (.float (.infinity true)) cs
  | '-' :: rest => readUnsigned true rest
  | _ => readUnsigned false cs

mutual

/-- Reads a value at the front of a text, at most `fuel` levels and elements deep. -/
def readValue : (fuel : Nat) → List Char → Option (Value × List Char)
  | 0, _ => none
  | fuel + 1, cs =>
    match cs with
    | '"' :: rest => do
      let (s, after) ← readText rest
      return (.text (String.ofList s), after)
    | '[' :: rest =>
      match skipSpace rest with
      | ']' :: after => some (.list [], after)
      | rest => do
        let (items, after) ← readItems fuel rest
        return (.list items, after)
    | '\x7b' :: rest =>
      match skipSpace rest with
      | '\x7d' :: after => some (.map [], after)
      | rest => do
        let (pairs, after) ← readEntries fuel rest
        return (.map (Mapping.ofPairs pairs), after)
    | _ => readAtom cs

/-- Reads the items of a list up to its closing bracket. -/
def readItems : (fuel : Nat) → List Char → Option (List Value × List Char)
  | 0, _ => none
  | fuel + 1, cs => do
    let (v, rest) ← readValue fuel cs
    match skipSpace rest with
    | ']' :: after => return ([v], after)
    | ',' :: rest =>
      let (items, after) ← readItems fuel (skipSpace rest)
      return (v :: items, after)
    | _ => none

/-- Reads the entries of a mapping up to its closing brace. -/
def readEntries : (fuel : Nat) → List Char → Option (List (Value × Value) × List Char)
  | 0, _ => none
  | fuel + 1, cs =>
    match cs with
    | '"' :: rest => do
      let (key, rest) ← readText rest
      match skipSpace rest with
      | ':' :: rest =>
        let (v, rest) ← readValue fuel (skipSpace rest)
        let entry := (Value.text (String.ofList key), v)
        match skipSpace rest with
        | '\x7d' :: after => return ([entry], after)
        | ',' :: rest =>
          let (more, after) ← readEntries fuel (skipSpace rest)
          return (entry :: more, after)
        | _ => none
      | _ => none
    | _ => none

end

/-- The value of a JSON text. -/
def decode? (s : String) : Option Value := do
  let cs := s.toList
  let (v, rest) ← readValue (cs.length + 1) (skipSpace cs)
  if (skipSpace rest).isEmpty then some v else none

/-- The value of a JSON text, which has to be one. -/
def decode (s : String) : Except Problem Value :=
  match decode? s with
  | some v => .ok v
  | none => .error .badJson

end Metastore.Json
