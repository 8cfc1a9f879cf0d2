import Metastore.Decimal.Shortest
import Metastore.Text.Digits

/-!
# Layout of floating-point numbers

How the digits of a number are written out: which magnitudes are positional, what an exponent looks like,
and the words for the values without digits. The default layout is positional from `10 ^ -4` up to below
`10 ^ 16`, always shows a fractional digit there, and writes exponents with a sign and two digits.
-/

namespace Metastore.Decimal

/-- The decisions of one way of writing floating-point numbers. -/
structure Layout where
  /-- The lowest decimal exponent written positionally. -/
  lowest : Int
  /-- The first decimal exponent that is no longer written positionally. -/
  highest : Int
  /-- Fewest digits of an exponent. -/
  exponentDigits : Nat
  nan : String
  infinity : String
deriving Repr

/-- The layout of numbers in plain text. -/
def Layout.plain : Layout := ⟨-4, 16, 2, "nan", "inf"⟩

/-- The layout of numbers in JSON: as in plain text, with its own words for the values without digits. -/
def Layout.json : Layout := { Layout.plain with nan := "NaN", infinity := "Infinity" }

/-- A digit string without its last zeros. -/
def dropLastZeros (digits : List Char) : List Char :=
  (digits.reverse.dropWhile (· == '0')).reverse

/-- `digits` with the point after `point` of them, padded with zeros on either side. -/
def positional (digits : List Char) (point : Int) : List Char :=
  if point ≤ 0 then "0.".toList ++ List.replicate (-point).toNat '0' ++ digits
  else
    let whole := digits.take point.toNat
    let zeros := List.replicate (point.toNat - whole.length) '0'
    let rest := digits.drop point.toNat
    whole ++ zeros ++ ['.'] ++ (if rest.isEmpty then ['0'] else rest)

/-- An exponent: its sign, then at least `width` digits. -/
def signedExponent (width : Nat) (e : Int) : List Char :=
  (if e < 0 then '-' else '+') :: Text.padZeros width (Text.decimal e.natAbs)

/-- The first digit, the point and the others if there are any, and the exponent. -/
def scientific (layout : Layout) (digits : List Char) (e : Int) : List Char :=
  let mark := if digits.length > 1 then ['.'] else []
  digits.take 1 ++ mark ++ digits.drop 1 ++ ['e'] ++ signedExponent layout.exponentDigits e

/-- Writes a number with the fewest digits that read back as the same number. -/
def Layout.render (layout : Layout) (x : Double) : String :=
  let sign := if x.negative then ['-'] else []
  if x.isNaN then layout.nan
  else if x.isInfinite then String.ofList (sign ++ layout.infinity.toList)
  else if x.isZero then String.ofList (sign ++ "0.0".toList)
  else
    let d := shortest x
    let digits := dropLastZeros (Text.decimal d.digits)
    let lead := d.exponent + (Text.decimal d.digits).length - 1
    let body :=
      if layout.lowest ≤ lead && lead < layout.highest then positional digits (lead + 1)
      else scientific layout digits lead
    String.ofList (sign ++ body)

end Metastore.Decimal
