import Metastore.Decimal.Layout

/-!
# Rounded decimals

Floating-point numbers written with a given number of digits: after the point, or altogether. The number is
rounded to the nearest such decimal, a tie to the even one; nothing is rounded twice, because the digits are
taken from the exact value.
-/

namespace Metastore.Decimal

/-- How a number is written to a given precision. -/
inductive Form where
  /-- With so many digits after the point. -/
  | fixed
  /-- With one digit before the point, so many after it, and an exponent. -/
  | scientific
  /-- With so many digits altogether, and an exponent only if the number is very large or very small. -/
  | general
deriving DecidableEq, Repr

/-- The nearest decimal with `count` digits to the magnitude of a finite number other than zero. -/
def significant (x : Double) (count : Nat) : Decimal :=
  let (num, den) := x.ratio
  let last := leadingExponent num den - count + 1
  let n := divRoundEven (num * tenTo (-last).toNat) (den * tenTo last.toNat)
  if n = tenTo count then ⟨tenTo (count - 1), last + 1⟩ else ⟨n, last⟩

/-- The first `count` digits of the magnitude of a finite number, with the exponent of the first one. -/
def leadingDigits (x : Double) (count : Nat) : List Char × Int :=
  if x.isZero then (List.replicate count '0', 0)
  else
    let d := significant x count
    (Text.decimal d.digits, d.exponent + count - 1)

/-- Digits before and after a point, which is left out if nothing follows it and it is not asked for. -/
def withPoint (keepPoint : Bool) (whole rest : List Char) : List Char :=
  if rest.isEmpty && !keepPoint then whole else whole ++ '.' :: rest

/-- The magnitude of a finite number with `places` digits after the point. -/
def fixedText (keepPoint : Bool) (places : Nat) (x : Double) : List Char :=
  let digits := Text.padZeros (places + 1) (Text.decimal (divRoundEven (x.ratio.1 * tenTo places) x.ratio.2))
  withPoint keepPoint (digits.take (digits.length - places)) (digits.drop (digits.length - places))

/-- Digits and the exponent of the first one, with an exponent written out. -/
def scientificText (keepPoint : Bool) (digits : List Char) (lead : Int) : List Char :=
  withPoint keepPoint (digits.take 1) (digits.drop 1) ++ 'e' :: signedExponent 2 lead

/-- Digits and the exponent of the first one, without an exponent. -/
def plainText (keepPoint : Bool) (digits : List Char) (lead : Int) : List Char :=
  if lead < 0 then withPoint keepPoint ['0'] (List.replicate (-lead - 1).toNat '0' ++ digits)
  else withPoint keepPoint (digits.take (lead + 1).toNat) (digits.drop (lead + 1).toNat)

/-- The digits that are written in the general form: without the zeros at the end of a fraction. -/
def trimmed (digits : List Char) (lead : Int) : List Char :=
  let whole := if lead < 0 then 0 else (lead + 1).toNat
  digits.take whole ++ ((digits.drop whole).reverse.dropWhile (· == '0')).reverse

/-- The magnitude of a finite number in the general form. -/
def generalText (keepPoint : Bool) (precision : Nat) (x : Double) : List Char :=
  let count := max precision 1
  let (digits, lead) := leadingDigits x count
  if -4 ≤ lead && lead < count then
    plainText keepPoint (if keepPoint then digits else trimmed digits lead) lead
  else scientificText keepPoint (if keepPoint then digits else trimmed digits 0) lead

/-- The magnitude of a number to a precision. `keepPoint` asks for the point, and for all digits of the
general form. -/
def Form.render (form : Form) (keepPoint : Bool) (precision : Nat) (x : Double) : List Char :=
  if x.isNaN then Layout.plain.nan.toList
  else if x.isInfinite then Layout.plain.infinity.toList
  else match form with
    | .fixed => fixedText keepPoint precision x
    | .scientific =>
      let (digits, lead) := leadingDigits x (precision + 1)
      scientificText keepPoint digits lead
    | .general => generalText keepPoint precision x

end Metastore.Decimal
