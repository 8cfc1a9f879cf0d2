import Metastore.Text.Range

/-!
# White space

The white space that is trimmed from settings and ignored in names: every character that Unicode counts as
space or separator, with the line and information separators among the control characters.
-/

namespace Metastore.Text

/-- The code points of white space, in ranges. -/
def blankRanges : List (Nat × Nat) :=
  [(9, 13), (28, 32), (133, 133), (160, 160), (5760, 5760), (8192, 8202), (8232, 8233), (8239, 8239),
   (8287, 8287), (12288, 12288)]

/-- Whether a character is white space. -/
def isBlank (c : Char) : Bool := inRanges blankRanges c.toNat

/-- A string without the characters of a class at either end. -/
def trimBy (drop : Char → Bool) (cs : List Char) : List Char :=
  ((cs.dropWhile drop).reverse.dropWhile drop).reverse

/-- A string without white space at either end. -/
def trim (s : String) : String := String.ofList (trimBy isBlank s.toList)

end Metastore.Text
