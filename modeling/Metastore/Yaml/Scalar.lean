import Metastore.Problem
import Metastore.Text.Base64
import Metastore.Text.Blank
import Metastore.Text.Case
import Metastore.Text.Quoted
import Metastore.Value
import Metastore.Yaml.Schema

/-!
# Values of texts

The value that a text in a configuration file has by its tag. A text that carries the tag of a kind need not
be spelled like one of that kind; each kind says how it fails then.
-/

namespace Metastore.Yaml.Scalar

/-- A sign in front of a number: whether it is negative, and the rest. -/
def cutSign : List Char → Bool × List Char
  | '-' :: rest => (true, rest)
  | '+' :: rest => (false, rest)
  | cs => (false, cs)

/-- The integer with a sign. -/
def signed (negative : Bool) (n : Int) : Int := if negative then -n else n

/-! ### Integers -/

/-- The letters that may follow a zero in front of a number in some bases. -/
def baseLetters : Nat → List Char
  | 2 => ['b', 'B']
  | 8 => ['o', 'O']
  | 16 => ['x', 'X']
  | _ => []

/-- The integer that a text stands for in a base, with white space around it, a sign, and the letter of the
base after a zero. -/
def readInteger (base : Nat) (cs : List Char) : Except Problem Int :=
  let (negative, cs) := cutSign (Text.trimBy Text.isBlank cs)
  let digits := match cs with
    | '0' :: letter :: rest => if (baseLetters base).contains letter then rest else cs
    | _ => cs
  match Text.readDigits base digits with
  | some n => .ok (signed negative n)
  | none => .error .badValue

/-- The number whose digits in base 60 are given, the last one first. -/
def ofSixtieths : List Int → Int
  | [] => 0
  | digit :: rest => digit + 60 * ofSixtieths rest

/-- The value of an integer: with a zero in front, it is octal; in base 60, colons separate the digits. -/
def int (s : String) : Except Problem Int :=
  let cs := s.toList.filter (· != '_')
  match cs with
  | [] => .error .missingPosition
  | _ =>
    let (negative, cs) := cutSign cs
    match cs with
    | [] => .error .missingPosition
    | ['0'] => .ok 0
    | '0' :: 'b' :: rest => (readInteger 2 rest).map (signed negative)
    | '0' :: 'x' :: rest => (readInteger 16 rest).map (signed negative)
    | '0' :: _ => (readInteger 8 cs).map (signed negative)
    | _ =>
      if cs.contains ':' then do
        let digits ← (Schema.colonParts cs).mapM (readInteger 10)
        return signed negative (ofSixtieths digits.reverse)
      else (readInteger 10 cs).map (signed negative)

/-! ### Numbers with a point -/

/-- The exponent of a number, or zero if there is none. -/
def readExponent : List Char → Option Int
  | [] => some 0
  | 'e' :: rest =>
    let (negative, digits) := cutSign rest
    (Text.readDigits 10 digits).map fun n => signed negative n
  | _ => none

/-- The number that a text in lower case stands for, with white space around it. -/
def readDecimal (cs : List Char) : Except Problem Double :=
  let (negative, cs) := cutSign (Text.trimBy Text.isBlank cs)
  let word := String.ofList cs
  if word = "inf" || word = "infinity" then .ok (Double.infinity negative)
  else if word = "nan" then .ok Double.nan
  else
    let whole := cs.takeWhile Text.isDigit
    let (fraction, rest) := match cs.drop whole.length with
      | '.' :: rest => (rest.takeWhile Text.isDigit, rest.dropWhile Text.isDigit)
      | rest => ([], rest)
    match Text.readDigits 10 (whole ++ fraction), readExponent rest with
    | some n, some e => .ok (Double.ofDecimal negative n (e - fraction.length))
    | _, _ => .error .badValue

/-- The sum of digits in base 60, the last one first, where `base` is what the first counts. -/
def sumSixtieths : (base : Nat) → (sum : Double) → List Double → Double
  | _, sum, [] => sum
  | base, sum, digit :: rest => sumSixtieths (base * 60) (sum.add (digit.mul (Double.ofInt base))) rest

/-- The value of a number with a point. -/
def float (s : String) : Except Problem Double :=
  let cs := Text.lowerAfter [] (s.toList.filter (· != '_'))
  match cs with
  | [] => .error .missingPosition
  | _ =>
    let (negative, cs) := cutSign cs
    let sign := fun (x : Double) => if negative then x.neg else x
    if cs = ".inf".toList then .ok (Double.infinity negative)
    else if cs = ".nan".toList then .ok Double.nan
    else if cs.contains ':' then do
      let digits ← (Schema.colonParts cs).mapM readDecimal
      return sign (sumSixtieths 1 (Double.zero false) digits.reverse)
    else (readDecimal cs).map sign

/-! ### Other kinds -/

/-- The value of a truth value. -/
def bool (s : String) : Except Problem Bool :=
  match Schema.boolWords.lookup (Text.lower s) with
  | some b => .ok b
  | none => .error .missingKey

/-- The natural number of digits, of which there may be none. -/
def number (digits : List Char) : Nat := (Text.readDigits 10 digits).getD 0

/-- The offset from universal time in minutes. -/
def offsetOf : Option Char × List Char × List Char → Int
  | (none, _, _) => 0
  | (some sign, hours, minutes) => signed (sign = '-') (number hours * 60 + number minutes)

/-- The time of a day. -/
def timeOf (t : Schema.WrittenTime) : TimeOfDay where
  hour := number t.hour
  minute := number t.minute
  second := number t.second
  microsecond := number ((t.fraction ++ List.replicate 6 '0').take 6)
  offset := t.zone.map offsetOf

/-- The value of a date. -/
def date (s : String) : Except Problem Timestamp :=
  let cs := s.toList
  let cs := if cs.getLast? = some '\n' then cs.dropLast else cs
  match Schema.readDate cs with
  | none => .error .notAMapping
  | some d =>
    let t : Timestamp :=
      { year := number d.year, month := number d.month, day := number d.day, time := d.time.map timeOf }
    if t.isValid then .ok t else .error .badValue

/-- The groups of six bits in a text, up to the padding that completes four characters; `count` characters of
four and `padding` signs of padding have been read. Characters that do not belong there are passed over, and
so is padding where none is due. -/
def sextets : (count padding : Nat) → List Char → Option (List Nat)
  | count, _, [] => if count = 0 then some [] else none
  | count, padding, c :: rest =>
    if c = '=' then
      if count < 2 then sextets count padding rest
      else if 4 ≤ count + padding + 1 then some []
      else sextets count (padding + 1) rest
    else
      match Text.Base64.value? c with
      | some v => (sextets ((count + 1) % 4) 0 rest).map (v :: ·)
      | none => sextets count padding rest

/-- The value of bytes in base 64, which are written in ASCII. -/
def binary (s : String) : Except Problem Value :=
  match if s.toList.all (·.toNat < 128) then sextets 0 0 s.toList else none with
  | some values => .ok (.foreign (.bytes (Text.Base64.bytes values)))
  | none => .error .badYaml

/-- The value of a text of a kind. -/
def value (kind s : String) : Except Problem Value :=
  match kind with
  | "null" => .ok .null
  | "bool" => (bool s).map .bool
  | "int" => (int s).map .int
  | "float" => (float s).map .float
  | "binary" => binary s
  | "timestamp" => (date s).map .date
  | "str" => .ok (.text s)
  | _ => .error .badYaml

end Metastore.Yaml.Scalar
