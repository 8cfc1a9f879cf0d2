/-!
# Binary floating-point numbers

A number of double precision is kept as its 64 bits, so that equality is decidable and every operation
can be unfolded. The finite ones denote `±mantissa · 2 ^ exponent`; `Double.ofRatio` is the nearest one to
a quotient of naturals, the even neighbour on a tie, and all other constructions go through it.
-/

namespace Metastore

/-- A double-precision number, given by its bits: sign, eleven bits of exponent, 52 of fraction. -/
structure Double where
  /-- The 64 bits, most significant first. -/
  bits : UInt64
deriving DecidableEq, Repr, Inhabited

/-- A power of two. -/
def twoTo (e : Nat) : Nat := Nat.pow 2 e

/-- A power of ten. -/
def tenTo (e : Nat) : Nat := Nat.pow 10 e

/-- The quotient of two naturals rounded to the nearest natural, a tie to the even one. -/
def divRoundEven (num den : Nat) : Nat :=
  let q := num / den
  let r := num % den
  if 2 * r < den then q
  else if den < 2 * r then q + 1
  else if q % 2 = 0 then q else q + 1

namespace Double

/-! ### Parts -/

/-- Whether the sign bit is set. -/
def negative (x : Double) : Bool := x.bits.toNat / twoTo 63 == 1

/-- The eleven bits of biased exponent. -/
def biased (x : Double) : Nat := x.bits.toNat / twoTo 52 % twoTo 11

/-- The 52 bits of fraction. -/
def fraction (x : Double) : Nat := x.bits.toNat % twoTo 52

/-- Not a number. -/
def isNaN (x : Double) : Bool := x.biased == 2047 && x.fraction != 0

/-- One of the two infinities. -/
def isInfinite (x : Double) : Bool := x.biased == 2047 && x.fraction == 0

/-- Neither infinite nor not a number. -/
def isFinite (x : Double) : Bool := x.biased != 2047

/-- The integer significand of a finite number. -/
def mantissa (x : Double) : Nat := if x.biased = 0 then x.fraction else x.fraction + twoTo 52

/-- The power of two that goes with `mantissa`. -/
def exponent (x : Double) : Int := (max x.biased 1 : Nat) - 1075

/-- One of the two zeros. -/
def isZero (x : Double) : Bool := x.isFinite && x.mantissa == 0

/-- The magnitude of a finite number as a quotient of naturals. -/
def ratio (x : Double) : Nat × Nat :=
  (x.mantissa * twoTo x.exponent.toNat, twoTo (-x.exponent).toNat)

/-- The value of a finite number that is an integer. -/
def toInt? (x : Double) : Option Int :=
  if x.isFinite then
    let (num, den) := x.ratio
    if num % den = 0 then some (if x.negative then -(num / den : Nat) else (num / den : Nat)) else none
  else none

/-- A finite number without its fractional part. -/
def truncate (x : Double) : Int :=
  let (num, den) := x.ratio
  if x.negative then -(num / den : Nat) else (num / den : Nat)

/-! ### Construction -/

/-- Assembles a number from its three fields. -/
def ofFields (negative : Bool) (biased fraction : Nat) : Double :=
  ⟨UInt64.ofNat ((if negative then twoTo 63 else 0) + biased * twoTo 52 + fraction)⟩

/-- Zero, with either sign. -/
def zero (negative : Bool) : Double := ofFields negative 0 0

/-- Infinity, with either sign. -/
def infinity (negative : Bool) : Double := ofFields negative 2047 0

/-- The one value used for "not a number". -/
def nan : Double := ofFields false 2047 (twoTo 51)

/-- The magnitude `num / den` divided by `2 ^ e` and rounded to an integer. -/
private def scaledRound (num den : Nat) (e : Int) : Nat :=
  divRoundEven (num * twoTo (-e).toNat) (den * twoTo e.toNat)

/-- The number nearest to `±num / den`, the one with an even significand on a tie. -/
def ofRatio (negative : Bool) (num den : Nat) : Double :=
  if num = 0 then zero negative
  else
    -- `num / den` lies strictly between `2 ^ (guess + 51)` and `2 ^ (guess + 53)`
    let guess : Int := (num.log2 : Int) - den.log2 - 52
    let low := num * twoTo (-guess).toNat < twoTo 52 * (den * twoTo guess.toNat)
    let e := max (if low then guess - 1 else guess) (-1074)
    let m := scaledRound num den e
    let (m, e) := if m = twoTo 53 then (twoTo 52, e + 1) else (m, e)
    if e > 971 then infinity negative
    else if m < twoTo 52 then ofFields negative 0 m
    else ofFields negative (e + 1075).toNat (m - twoTo 52)

/-- The number nearest to `±digits · 10 ^ exponent`. Exponents far outside the range are cut short. -/
def ofDecimal (negative : Bool) (digits : Nat) (exponent : Int) : Double :=
  if digits = 0 then zero negative
  else
    let top := exponent + (Nat.toDigits 10 digits).length
    if top > 400 then infinity negative
    else if top < -400 then zero negative
    else ofRatio negative (digits * tenTo exponent.toNat) (tenTo (-exponent).toNat)

/-- The number nearest to an integer. -/
def ofInt (n : Int) : Double := ofRatio (n < 0) n.natAbs 1

/-- The number of the opposite sign. -/
def neg (x : Double) : Double := ofFields (!x.negative) x.biased x.fraction

/-! ### Arithmetic and comparison -/

/-- A finite number as an integer over `2 ^ 1074`. -/
private def units (x : Double) : Int :=
  let n : Int := x.mantissa * twoTo (x.exponent + 1074).toNat
  if x.negative then -n else n

/-- The rounded sum of two finite numbers; an operand that is not finite is passed on. -/
def add (x y : Double) : Double :=
  if !x.isFinite then x
  else if !y.isFinite then y
  else
    let n := x.units + y.units
    ofRatio (n < 0) n.natAbs (twoTo 1074)

/-- The rounded product of two finite numbers; an operand that is not finite is passed on. -/
def mul (x y : Double) : Double :=
  if !x.isFinite then x
  else if !y.isFinite then y
  else ofRatio (x.negative != y.negative) (x.ratio.1 * y.ratio.1) (x.ratio.2 * y.ratio.2)

/-- Numeric equality: the two zeros are equal, and "not a number" equals nothing. -/
def same (x y : Double) : Bool :=
  !x.isNaN && !y.isNaN && (x == y || (x.isZero && y.isZero))

/-- Numeric equality with an integer. -/
def isInt (x : Double) (n : Int) : Bool := x.toInt? == some n

end Double
end Metastore
