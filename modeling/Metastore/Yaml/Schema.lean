import Metastore.Text.Digits

/-!
# Tags

What a plain text in a configuration file is: null, a truth value, a number, a date, a merge key, or only a
text. Each kind is a set of spellings.
-/

namespace Metastore.Yaml

/-- What the tags of the usual kinds start with. -/
def usualTagStart : String := "tag:yaml.org,2002:"

/-- The tag of a usual kind. -/
def usualTag (kind : String) : String := usualTagStart ++ kind

namespace Schema

/-- Whether a text consists of a part in `first` and, after a sign, the rest in `rest`; the sign may be
missing. -/
def afterSign (rest : List Char → Bool) : List Char → Bool
  | '+' :: cs | '-' :: cs => rest cs
  | cs => rest cs

/-- Digits and underscores. -/
def isDigitOrLine (c : Char) : Bool := Text.isDigit c || c = '_'

/-- Whether a text is a decimal number without sign: a digit, then digits and underscores. -/
def isGrouped : List Char → Bool
  | [] => false
  | c :: rest => Text.isDigit c && rest.all isDigitOrLine

/-- The spellings of truth values, in lower case. -/
def boolWords : List (String × Bool) :=
  [("yes", true), ("no", false), ("true", true), ("false", false), ("on", true), ("off", false)]

/-- A word in lower case, with a capital first letter, and in capitals. -/
def spellings (word : String) : List String := [word, word.capitalize, word.map Char.toUpper]

/-- Whether a text is a truth value. -/
def isBool (s : String) : Bool := boolWords.any fun (word, _) => (spellings word).contains s

/-- Whether a text is null. -/
def isNull (s : String) : Bool := s.isEmpty || s = "~" || (spellings "null").contains s

/-! ### Numbers -/

/-- Whether a text is a part of a number in base 60: one digit, or two of which the first is below six. -/
def isSixtieth : List Char → Bool
  | [c] => Text.isDigit c
  | [c, d] => Text.isDigit c && c < '6' && Text.isDigit d
  | _ => false

/-- A text cut at the colons. -/
def colonParts : List Char → List (List Char)
  | [] => [[]]
  | c :: rest =>
    match colonParts rest with
    | part :: more => if c = ':' then [] :: part :: more else (c :: part) :: more
    | [] => [[c]]

/-- Whether a text is an integer in base 60: parts with colons between them. -/
def isBase60 (first : List Char → Bool) (cs : List Char) : Bool :=
  match colonParts cs with
  | head :: next :: more => first head && (next :: more).all isSixtieth
  | _ => false

/-- Whether a text is an integer without sign. -/
def isUnsignedInt (cs : List Char) : Bool :=
  let nonZero := fun (cs : List Char) => isGrouped cs && cs.head? != some '0'
  match cs with
  | ['0'] => true
  | '0' :: 'b' :: rest => !rest.isEmpty && rest.all fun c => c = '0' || c = '1' || c = '_'
  | '0' :: 'x' :: rest => !rest.isEmpty && rest.all fun c => Text.isHexDigit c || c = '_'
  | '0' :: rest => rest.all fun c => ('0' ≤ c && c ≤ '7') || c = '_'
  | cs => nonZero cs || isBase60 nonZero cs

/-- Whether a text is an integer. -/
def isInt (cs : List Char) : Bool := afterSign isUnsignedInt cs

/-- Whether a text is an exponent, or empty. -/
def isExponent : List Char → Bool
  | [] => true
  | e :: sign :: digits =>
    (e = 'e' || e = 'E') && (sign = '+' || sign = '-') && !digits.isEmpty && digits.all Text.isDigit
  | _ => false

/-- Whether a text is a point with digits after it, some of which are required unless `digitsBefore`. -/
def isFraction (digitsBefore : Bool) : List Char → Bool
  | '.' :: rest =>
    let digits := rest.takeWhile isDigitOrLine
    (digitsBefore || digits.head?.any Text.isDigit) && isExponent (rest.drop digits.length)
  | _ => false

/-- Whether a text is a number with a point, without sign. -/
def isUnsignedFloat (cs : List Char) : Bool :=
  let digits := cs.takeWhile isDigitOrLine
  isGrouped digits && isFraction true (cs.drop digits.length)

/-- Whether a text is a number in base 60 with a point at its end or inside its last part. -/
def isFloat60 (cs : List Char) : Bool :=
  let whole := cs.takeWhile (· != '.')
  match cs.drop whole.length with
  | '.' :: rest => isBase60 isGrouped whole && rest.all isDigitOrLine
  | _ => false

/-- Whether a text is infinity without sign. -/
def isInfinity (cs : List Char) : Bool := [".inf", ".Inf", ".INF"].contains (String.ofList cs)

/-- Whether a text is a number with a point, infinite, or no number. -/
def isFloat (cs : List Char) : Bool :=
  afterSign (fun cs => isUnsignedFloat cs || isFloat60 cs || isInfinity cs) cs
    || isFraction false cs || [".nan", ".NaN", ".NAN"].contains (String.ofList cs)

/-! ### Dates -/

/-- The time of a day as it is written. -/
structure WrittenTime where
  hour : List Char
  minute : List Char
  second : List Char
  fraction : List Char
  /-- The offset from universal time: its sign, hours and minutes; the sign is missing for universal time
  itself. -/
  zone : Option (Option Char × List Char × List Char)
deriving Repr

/-- A date as it is written, with the time of the day if there is one. -/
structure WrittenDate where
  year : List Char
  month : List Char
  day : List Char
  time : Option WrittenTime
deriving Repr

/-- Cuts digits off a text, at least `least` and at most `most`. -/
def cutDigits (least most : Nat) (cs : List Char) : Option (List Char × List Char) :=
  let digits := (cs.take most).takeWhile Text.isDigit
  if digits.length < least then none else some (digits, cs.drop digits.length)

/-- Cuts a character off a text. -/
def cutChar (c : Char) : List Char → Option (List Char)
  | d :: rest => if d = c then some rest else none
  | [] => none

/-- Spaces and tabs. -/
def isGapChar (c : Char) : Bool := c = ' ' || c = '\t'

/-- Reads an offset from universal time, which ends the text; it may be missing. -/
def readZone (cs : List Char) : Option (Option (Option Char × List Char × List Char)) :=
  match cs with
  | [] => some none
  | _ =>
    match cs.dropWhile isGapChar with
    | ['Z'] => some (some (none, [], []))
    | sign :: rest => do
      if sign != '+' && sign != '-' then none
      let (hours, rest) ← cutDigits 1 2 rest
      match rest with
      | [] => some (some (some sign, hours, []))
      | _ =>
        let (minutes, rest) ← cutDigits 2 2 (← cutChar ':' rest)
        if rest.isEmpty then some (some (some sign, hours, minutes)) else none
    | [] => none

/-- Reads the time of a day, which ends the text. -/
def readTime (cs : List Char) : Option WrittenTime := do
  let (hour, rest) ← cutDigits 1 2 cs
  let (minute, rest) ← cutDigits 2 2 (← cutChar ':' rest)
  let (second, rest) ← cutDigits 2 2 (← cutChar ':' rest)
  let (fraction, rest) := match rest with
    | '.' :: rest => (rest.takeWhile Text.isDigit, rest.dropWhile Text.isDigit)
    | _ => ([], rest)
  return { hour, minute, second, fraction, zone := ← readZone rest }

/-- Reads a date, and the time after it if there is one. -/
def readDate (cs : List Char) : Option WrittenDate := do
  let (year, rest) ← cutDigits 4 4 cs
  let (month, rest) ← cutDigits 1 2 (← cutChar '-' rest)
  let (day, rest) ← cutDigits 1 2 (← cutChar '-' rest)
  match rest with
  | [] => return { year, month, day, time := none }
  | c :: more =>
    let start ←
      if c = 'T' || c = 't' then some more
      else if isGapChar c then some (more.dropWhile isGapChar)
      else none
    return { year, month, day, time := some (← readTime start) }

/-- Whether a text is a date. Without a time its month and day have two digits each. -/
def isDate (cs : List Char) : Bool :=
  match readDate cs with
  | some d => d.time.isSome || (d.month.length = 2 && d.day.length = 2)
  | none => false

/-! ### Resolution -/

/-- The kind of a plain text. -/
def kindOf (s : String) : String :=
  let cs := s.toList
  if isBool s then "bool"
  else if isFloat cs then "float"
  else if isInt cs then "int"
  else if s = "<<" then "merge"
  else if isNull s then "null"
  else if isDate cs then "timestamp"
  else if s = "=" then "value"
  else "str"

/-- The kind of a text that may end with a line break, which does not matter unless there is nothing else. -/
def kindOfLine (s : String) : String :=
  let cs := s.toList
  if cs.getLast? = some '\n' && 1 < cs.length then kindOf (String.ofList cs.dropLast) else kindOf s

end Schema
end Metastore.Yaml
