import Metastore.Text.Digits

/-!
# Templates

A template is a text in which conversions stand for the arguments that it is filled with. A conversion starts
with a percent sign and ends with a letter, which says how the argument is written; between the two stand,
in this order, the key of the argument in parentheses, flags, a width, a precision after a point, and a size
mark that has no meaning. Two percent signs stand for one. Reading a template never fails: what cannot be
filled is a piece of its own kind.
-/

namespace Metastore.Template

/-- A width or precision. -/
inductive Measure where
  | fixed (n : Nat)
  /-- The next argument gives it. -/
  | argument
deriving DecidableEq, Repr

/-- The flags of a conversion. -/
structure Flags where
  /-- Written at the left end of its width. -/
  left : Bool := false
  /-- With a sign also if it is positive. -/
  plus : Bool := false
  /-- With a blank in place of a positive sign. -/
  blank : Bool := false
  /-- In the alternate form. -/
  alternate : Bool := false
  /-- With zeros up to the width. -/
  zeros : Bool := false
deriving DecidableEq, Repr

/-- Which argument a conversion is for. -/
inductive Key where
  /-- The next one. -/
  | next
  /-- The one of that name. -/
  | named (name : String)
  /-- One whose name has no end. -/
  | unclosed
deriving DecidableEq, Repr

/-- A conversion. -/
structure Conversion where
  key : Key
  flags : Flags
  width : Option Measure
  precision : Option Measure
  /-- The letter at its end; there is none if the template ends before it. -/
  letter : Option Char
deriving DecidableEq, Repr

/-- A piece of a template. -/
inductive Piece where
  | literal (c : Char)
  | conversion (c : Conversion)
deriving DecidableEq, Repr

/-! ### Reading -/

/-- The text before the parenthesis that closes one which is already open, and the text after it. `depth`
more parentheses are open. -/
def cutKey : (depth : Nat) → List Char → Option (List Char × List Char)
  | _, [] => none
  | depth, c :: rest =>
    if c = ')' then
      match depth with
      | 0 => some ([], rest)
      | depth + 1 => (cutKey depth rest).map fun (name, after) => (c :: name, after)
    else
      (cutKey (if c = '(' then depth + 1 else depth) rest).map fun (name, after) => (c :: name, after)

/-- The key at the start of a text, and what follows. -/
def readKey : List Char → Key × List Char
  | '(' :: rest =>
    match cutKey 0 rest with
    | some (name, after) => (.named (String.ofList name), after)
    | none => (.unclosed, [])
  | cs => (.next, cs)

/-- The characters that set flags. -/
def isFlag (c : Char) : Bool := c == '-' || c == '+' || c == ' ' || c == '#' || c == '0'

/-- The flags set by characters. -/
def flagsOf (cs : List Char) : Flags :=
  { left := cs.contains '-', plus := cs.contains '+', blank := cs.contains ' ',
    alternate := cs.contains '#', zeros := cs.contains '0' }

/-- The width or precision at the start of a text, and what follows. -/
def readMeasure : List Char → Option Measure × List Char
  | '*' :: rest => (some .argument, rest)
  | cs => ((Text.readDigits 10 (cs.takeWhile Text.isDigit)).map .fixed, cs.dropWhile Text.isDigit)

/-- The precision at the start of a text, and what follows. A point alone means no digits. -/
def readPrecision : List Char → Option Measure × List Char
  | '.' :: rest => (some ((readMeasure rest).1.getD (.fixed 0)), (readMeasure rest).2)
  | cs => (none, cs)

/-- The text after a size mark. -/
def skipSize : List Char → List Char
  | 'h' :: rest => rest
  | 'l' :: rest => rest
  | 'L' :: rest => rest
  | cs => cs

/-- The conversion whose percent sign stands before a text, and what follows. -/
def readConversion (cs : List Char) : Conversion × List Char :=
  let (key, cs) := readKey cs
  let flags := flagsOf (cs.takeWhile isFlag)
  let (width, cs) := readMeasure (cs.dropWhile isFlag)
  let (precision, cs) := readPrecision cs
  let cs := skipSize cs
  ({ key, flags, width, precision, letter := cs.head? }, cs.tail)

/-! ### Reading goes forward -/

theorem cutKey_length {depth : Nat} {cs name after : List Char} (h : cutKey depth cs = some (name, after)) :
    after.length ≤ cs.length := by
  induction cs generalizing depth name with
  | nil => simp [cutKey] at h
  | cons c rest ih =>
    unfold cutKey at h
    split at h
    · cases depth with
      | zero => simp_all
      | succ depth =>
        obtain ⟨⟨n, a⟩, hn, he⟩ := Option.map_eq_some_iff.1 h
        obtain ⟨-, rfl⟩ := Prod.mk.inj he
        exact Nat.le_succ_of_le (ih hn)
    · obtain ⟨⟨n, a⟩, hn, he⟩ := Option.map_eq_some_iff.1 h
      obtain ⟨-, rfl⟩ := Prod.mk.inj he
      exact Nat.le_succ_of_le (ih hn)

theorem readKey_length (cs : List Char) : (readKey cs).2.length ≤ cs.length := by
  unfold readKey
  split
  · split
    · next h => exact Nat.le_succ_of_le (cutKey_length h)
    · simp
  · exact Nat.le_refl _

theorem readMeasure_length (cs : List Char) : (readMeasure cs).2.length ≤ cs.length := by
  unfold readMeasure
  split
  · simp
  · exact (List.dropWhile_suffix _).length_le

theorem readPrecision_length (cs : List Char) : (readPrecision cs).2.length ≤ cs.length := by
  unfold readPrecision
  split
  · exact Nat.le_succ_of_le (readMeasure_length _)
  · exact Nat.le_refl _

theorem skipSize_length (cs : List Char) : (skipSize cs).length ≤ cs.length := by
  unfold skipSize
  split <;> simp

theorem readConversion_length (cs : List Char) : (readConversion cs).2.length ≤ cs.length := by
  have hk := readKey_length cs
  have hf := (List.dropWhile_suffix isFlag (l := (readKey cs).2)).length_le
  have hm := readMeasure_length ((readKey cs).2.dropWhile isFlag)
  have hp := readPrecision_length (readMeasure ((readKey cs).2.dropWhile isFlag)).2
  have hs := skipSize_length (readPrecision (readMeasure ((readKey cs).2.dropWhile isFlag)).2).2
  simp only [readConversion, List.length_tail]
  omega

/-- The pieces of a template. -/
def pieces : List Char → List Piece
  | [] => []
  | '%' :: '%' :: rest => .literal '%' :: pieces rest
  | '%' :: rest => .conversion (readConversion rest).1 :: pieces (readConversion rest).2
  | c :: rest => .literal c :: pieces rest
termination_by cs => cs.length
decreasing_by
  · simp only [List.length_cons]; omega
  · exact Nat.lt_succ_of_le (readConversion_length rest)
  · exact Nat.lt_succ_self _

end Metastore.Template
