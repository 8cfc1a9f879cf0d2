import Metastore.Text.CaseTable

/-!
# Lower case

Full lower-casing of text: the simple mapping of each character, the one letter with a mapping to two
characters, and the sigma that takes its final form at the end of a word.
-/

namespace Metastore.Text

/-- A letter with case. -/
def isCased (c : Char) : Bool := inRanges casedRanges c.toNat

/-- A character that case rules look past. -/
def isIgnorable (c : Char) : Bool := inRanges ignorableRanges c.toNat

/-- The lower-case code point given by the first run that has the code point `n`. -/
def lowerIn : List (Nat × Nat × Nat × Bool × Nat) → Nat → Nat
  | [], n => n
  | (first, last, step, up, distance) :: rest, n =>
    if n < first then n
    else if n ≤ last && (n - first) % step = 0 then
      if up then n + distance else n - distance
    else lowerIn rest n

/-- The lower-case form of a character by itself. -/
def lowerChar (c : Char) : List Char :=
  if c.toNat < 128 then [c.toLower]
  else if c = 'İ' then ['i', '\u0307']
  else [Char.ofNat (lowerIn lowerRuns c.toNat)]

/-- Whether the first character that case rules do not look past is a letter with case. -/
def meetsCased (cs : List Char) : Bool :=
  match cs.dropWhile isIgnorable with
  | [] => false
  | c :: _ => isCased c

/-- The form of a capital sigma in lower case: final if a letter stands before it (`before` is read
backwards) and none after it. -/
def lowerSigma (before after : List Char) : Char :=
  if meetsCased before && !meetsCased after then 'ς' else 'σ'

/-- Lower-cases a string that stands after the reverse of `before`. -/
def lowerAfter (before : List Char) : List Char → List Char
  | [] => []
  | c :: rest =>
    (if c = 'Σ' then [lowerSigma before rest] else lowerChar c) ++ lowerAfter (c :: before) rest

/-- The lower-case form of a text. -/
def lower (s : String) : String := String.ofList (lowerAfter [] s.toList)

/-- The capital form of a character where it consists of ASCII letters, and otherwise the character. Two
texts that have the same letters but for case agree after this mapping if one of them is ASCII. -/
def capitals (c : Char) : List Char :=
  if c.toNat < 128 then [c.toUpper]
  else match c with
    | 'ı' => ['I']
    | 'ſ' => ['S']
    | 'ß' => ['S', 'S']
    | 'ﬀ' => ['F', 'F']
    | 'ﬁ' => ['F', 'I']
    | 'ﬂ' => ['F', 'L']
    | 'ﬃ' => ['F', 'F', 'I']
    | 'ﬄ' => ['F', 'F', 'L']
    | 'ﬅ' => ['S', 'T']
    | 'ﬆ' => ['S', 'T']
    | _ => [c]

/-- A text in capitals, for comparison with ASCII names. -/
def asciiCapitals (s : String) : String := String.ofList (s.toList.flatMap capitals)

end Metastore.Text
