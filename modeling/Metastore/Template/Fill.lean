import Metastore.Decimal.Rounded
import Metastore.Problem
import Metastore.Template
import Metastore.Value.Display
import Metastore.Value.Mapping

/-!
# Filling templates

A template is filled from left to right, and the first thing that does not fit is what goes wrong: an argument
that is missing or of a type that its letter cannot write, a letter that means nothing, a template that ends
inside a conversion. Of arguments given as a list all have to be used; of those given by name none has to be.
-/

namespace Metastore.Template

/-! ### Arguments -/

/-- What a template is filled with. -/
inductive Arguments where
  /-- The items that have not been used yet. -/
  | items (rest : List Value)
  /-- Entries that are found by name, with the value that is next. -/
  | entries (all : Mapping) (next : Option Value)
deriving Repr

/-- Arguments by name. A conversion without a key takes all of them as one value. -/
def Arguments.ofEntries (all : Mapping) : Arguments := .entries all (some (.map all))

/-- Filling, with the arguments that are left. -/
abbrev Filling := StateT Arguments (Except Problem)

/-- Takes the next argument. -/
def takeNext : Filling Value := fun args =>
  match args with
  | .items (v :: rest) => .ok (v, .items rest)
  | .entries all (some v) => .ok (v, .entries all none)
  | .items [] | .entries _ none => .error .wrongType

/-- Makes the argument that a key names the next one. -/
def select (key : Key) : Filling Unit := fun args =>
  match key, args with
  | .next, _ => .ok ((), args)
  | .named name, .entries all _ =>
    match all.getText? name with
    | some v => .ok ((), .entries all (some v))
    | none => .error .missingKey
  | .unclosed, .entries _ _ => .error .badValue
  | _, .items _ => .error .wrongType

/-- Checks that no item is left. -/
def checkUsed : Arguments → Except Problem Unit
  | .items (_ :: _) => .error .wrongType
  | _ => .ok ()

/-! ### Numbers -/

/-- The greatest width. -/
def maxWidth : Nat := 0x7FFFFFFFFFFFFFFF

/-- The greatest precision. -/
def maxPrecision : Nat := 0x7FFFFFFF

/-- A value as an integer, where a truth value counts as one. -/
def countOf : Value → Except Problem Int
  | .int n => .ok n
  | .bool b => .ok (if b then 1 else 0)
  | _ => .error .wrongType

/-- The width or precision that was given, or that the next argument gives. -/
def measure (limit : Nat) : Measure → Filling Int
  | .fixed n => if n ≤ limit then return n else throw .badValue
  | .argument => do
    let n ← countOf (← takeNext)
    if n.natAbs ≤ limit then return n else throw .outOfRange

/-- A value as an integer, where a number that is none loses its fraction. -/
def wholeNumber : Value → Except Problem Int
  | .float x =>
    if x.isNaN then .error .badValue
    else if x.isInfinite then .error .outOfRange
    else .ok x.truncate
  | v => countOf v

/-- A value as a floating-point number. -/
def realNumber : Value → Except Problem Double
  | .float x => .ok x
  | v => do
    let x := Double.ofInt (← countOf v)
    if x.isFinite then return x else throw .outOfRange

/-- The character that a value stands for: a text of one, or its code. -/
def character : Value → Except Problem Char
  | .text s =>
    match s.toList with
    | [c] => .ok c
    | _ => .error .wrongType
  | v => do
    let n ← countOf v
    if n < 0 || 0x110000 ≤ n then throw .outOfRange else return Char.ofNat n.toNat

/-! ### Layout -/

/-- A text with blanks up to a width. -/
def padText (left : Bool) (width : Nat) (cs : List Char) : List Char :=
  let blanks := List.replicate (width - cs.length) ' '
  if left then cs ++ blanks else blanks ++ cs

/-- What stands in front of a number that is negative or not. -/
def signFor (flags : Flags) (negative : Bool) : List Char :=
  if negative then ['-'] else if flags.plus then ['+'] else if flags.blank then [' '] else []

/-- A number with what stands in front of it, up to a width. Zeros go between the two. -/
def padNumber (flags : Flags) (width : Nat) (front digits : List Char) : List Char :=
  if flags.zeros && !flags.left then front ++ Text.padZeros (width - front.length) digits
  else padText flags.left width (front ++ digits)

/-- The base of the numbers that a letter writes, and what shows it in the alternate form. -/
def baseOf (letter : Char) : Nat × List Char :=
  match letter with
  | 'o' => (8, ['0', 'o'])
  | 'x' => (16, ['0', 'x'])
  | 'X' => (16, ['0', 'X'])
  | _ => (10, [])

/-- Characters in capitals. -/
def capital (cs : List Char) : List Char := cs.map Char.toUpper

/-- An integer with at least `precision` digits. -/
def integerText (flags : Flags) (width precision : Nat) (letter : Char) (n : Int) : List Char :=
  let (base, mark) := baseOf letter
  let digits := Text.padZeros precision (Nat.toDigits base n.natAbs)
  let front := signFor flags (n < 0) ++ (if flags.alternate then mark else [])
  padNumber flags width front (if letter = 'X' then capital digits else digits)

/-- A floating-point number. -/
def realText (flags : Flags) (width precision : Nat) (form : Decimal.Form) (x : Double) : List Char :=
  padNumber flags width (signFor flags (x.negative && !x.isNaN)) (form.render flags.alternate precision x)

/-- The text of a value, at most as long as the precision if there is one. -/
def cutText (flags : Flags) (width : Nat) (precision : Option Nat) (s : String) : List Char :=
  padText flags.left width (match precision with
    | some n => s.toList.take n
    | none => s.toList)

/-- The number of digits that a floating-point number is written with if no precision is given. -/
def usualPrecision : Nat := 6

/-- The form in which a letter writes floating-point numbers, if it does. -/
def formOf? (letter : Char) : Option Decimal.Form :=
  match letter.toLower with
  | 'f' => some .fixed
  | 'e' => some .scientific
  | 'g' => some .general
  | _ => none

/-- Whether a letter writes integers: in decimal, in octal, or in hexadecimal. -/
def isInteger (letter : Char) : Bool := ['d', 'i', 'u', 'o', 'x', 'X'].contains letter

/-- An integer for a letter: only the decimal ones take a number that is none. -/
def integerFor (letter : Char) (v : Value) : Except Problem Int :=
  if (baseOf letter).1 = 10 then wholeNumber v else countOf v

/-- A value as the letter of a conversion writes it. -/
def convert (flags : Flags) (width : Nat) (precision : Option Nat) (letter : Char) (v : Value) :
    Except Problem (List Char) :=
  match letter with
  | 's' => .ok (cutText flags width precision v.display)
  | 'r' => .ok (cutText flags width precision v.quoted)
  | 'a' => .ok (cutText flags width precision v.quotedAscii)
  | 'c' => (character v).map fun c => padText flags.left width [c]
  | _ =>
    if isInteger letter then
      (integerFor letter v).map (integerText flags width (precision.getD 0) letter)
    else match formOf? letter with
      | none => .error .badValue
      | some form => do
        let text := realText flags width (precision.getD usualPrecision) form (← realNumber v)
        return if letter.isUpper then capital text else text

/-! ### Filling -/

/-- The text that a conversion stands for. -/
def fillConversion (c : Conversion) : Filling (List Char) := do
  select c.key
  let width ← c.width.mapM (measure maxWidth)
  let precision ← c.precision.mapM (measure maxPrecision)
  match c.letter with
  | none => throw .badValue
  | some letter =>
    let v ← takeNext
    let left := c.flags.left || width.any (· < 0)
    convert { c.flags with left } (width.getD 0).natAbs (precision.map Int.toNat) letter v

/-- The text that a piece stands for. -/
def fillPiece : Piece → Filling (List Char)
  | .literal c => return [c]
  | .conversion c => fillConversion c

/-- The text that pieces stand for. -/
def fillPieces : List Piece → Filling (List Char)
  | [] => return []
  | piece :: rest => do
    let text ← fillPiece piece
    return text ++ (← fillPieces rest)

/-- Fills a template. -/
def fill (template : String) (args : Arguments) : Except Problem String := do
  let (text, left) ← fillPieces (pieces template.toList) args
  checkUsed left
  return String.ofList text

end Metastore.Template
