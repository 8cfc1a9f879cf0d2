/-!
# Splitting text

Cutting a text at separators. Pieces are joined back by the separator, so a text without one is a single
piece and the empty text is one empty piece.
-/

namespace Metastore.Text

/-- The pieces between the characters that satisfy `isSep`. -/
def splitBy (isSep : Char → Bool) : List Char → List (List Char)
  | [] => [[]]
  | c :: rest =>
    if isSep c then [] :: splitBy isSep rest
    else match splitBy isSep rest with
      | piece :: more => (c :: piece) :: more
      | [] => [[c]]

/-- The pieces between doubled occurrences of `sep`, found from the left. -/
def splitDoubled (sep : Char) : List Char → List (List Char)
  | [] => [[]]
  | [c] => [[c]]
  | c :: d :: rest =>
    if c = sep && d = sep then [] :: splitDoubled sep rest
    else match splitDoubled sep (d :: rest) with
      | piece :: more => (c :: piece) :: more
      | [] => [[c]]

/-- What stands before the first `sep`, and what stands after it if there is one. -/
def cutAt (sep : Char) (cs : List Char) : List Char × Option (List Char) :=
  (cs.takeWhile (· != sep), match cs.dropWhile (· != sep) with
    | [] => none
    | _ :: rest => some rest)

/-- What stands after the last `sep`, or everything if there is none. -/
def afterLast (sep : Char) (cs : List Char) : List Char :=
  (cs.reverse.takeWhile (· != sep)).reverse

/-- Whether `needle` occurs in a text. -/
def hasInfix (needle : List Char) : List Char → Bool
  | [] => needle.isEmpty
  | c :: rest => needle.isPrefixOf (c :: rest) || hasInfix needle rest

/-- The pieces joined with `sep` between them. -/
def joinWith (sep : List Char) : List (List Char) → List Char
  | [] => []
  | [piece] => piece
  | piece :: more => piece ++ sep ++ joinWith sep more

end Metastore.Text
