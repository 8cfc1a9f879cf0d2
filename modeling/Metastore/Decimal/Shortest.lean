import Metastore.Double

/-!
# Shortest decimals

`shortest x` is the decimal with the fewest digits among those that round to the double `x`, and of these
the nearest to `x`. Everything is exact arithmetic on naturals: the decimals that round to `x` fill an
interval around it, and for each number of digits only the two neighbours of `x` on that grid matter.
-/

namespace Metastore

/-- The decimal `digits · 10 ^ exponent`. -/
structure Decimal where
  digits : Nat
  exponent : Int
deriving DecidableEq, Repr

namespace Decimal

/-- The positive rational `num / den`. -/
private structure Ratio where
  num : Nat
  den : Nat

/-- Whether a ratio is at most another one. -/
private def Ratio.le (a b : Ratio) : Bool := a.num * b.den ≤ b.num * a.den

/-- Whether a ratio is less than another one. -/
private def Ratio.lt (a b : Ratio) : Bool := a.num * b.den < b.num * a.den

/-- The ratio times `2 ^ e`. -/
private def Ratio.scale2 (a : Ratio) (e : Int) : Ratio := ⟨a.num * twoTo e.toNat, a.den * twoTo (-e).toNat⟩

/-- The ratio times `10 ^ e`. -/
private def Ratio.scale10 (a : Ratio) (e : Int) : Ratio := ⟨a.num * tenTo e.toNat, a.den * tenTo (-e).toNat⟩

/-- How far a ratio below one has to be moved left before it reaches one, at most `fuel` places. -/
private def leadingZeros (den : Nat) : (fuel : Nat) → (num : Nat) → Nat
  | 0, _ => 0
  | fuel + 1, num => if den ≤ num then 0 else leadingZeros den fuel (num * 10) + 1

/-- The position of the first digit: `10 ^ k ≤ num / den < 10 ^ (k + 1)`. -/
def leadingExponent (num den : Nat) : Int :=
  if den ≤ num then (Nat.toDigits 10 (num / den)).length - 1
  else -(leadingZeros den 400 num : Nat)

/-- The reals that round to a double, as an interval; `closed` says whether its ends belong to it. -/
private structure Interval where
  low : Ratio
  high : Ratio
  closed : Bool

/-- Whether an interval holds a ratio. -/
private def Interval.contains (i : Interval) (r : Ratio) : Bool :=
  if i.closed then i.low.le r && r.le i.high else i.low.lt r && r.lt i.high

/-- The interval of a positive finite double: half a unit on both sides, but a quarter below a power of
two, where the doubles are twice as dense. -/
private def Interval.around (x : Double) : Interval :=
  let m := x.mantissa
  let below := if m = twoTo 52 && x.biased > 1 then 1 else 2
  { low := Ratio.scale2 ⟨4 * m - below, 1⟩ (x.exponent - 2)
    high := Ratio.scale2 ⟨4 * m + 2, 1⟩ (x.exponent - 2)
    closed := m % 2 = 0 }

/-- The nearest point to `value` on the grid `10 ^ e` that lies in the interval. -/
private def nearestOnGrid (interval : Interval) (value : Ratio) (e : Int) : Option Nat :=
  let scaled := value.scale10 (-e)
  let floor := scaled.num / scaled.den
  let inside (n : Nat) : Bool := interval.contains (Ratio.scale10 ⟨n, 1⟩ e)
  let rounded := divRoundEven scaled.num scaled.den
  if inside rounded then some rounded
  else if inside floor then some floor
  else if inside (floor + 1) then some (floor + 1)
  else none

/-- The shortest decimal for the magnitude of a finite double other than zero. -/
def shortest (x : Double) : Decimal :=
  let interval := Interval.around x
  let value : Ratio := ⟨x.ratio.1, x.ratio.2⟩
  let lead := leadingExponent value.num value.den
  let grids := (List.range 17).map fun (n : Nat) => lead - n
  match grids.findSome? fun e => (nearestOnGrid interval value e).map (Decimal.mk · e) with
  | some d => d
  | none =>
    let scaled := value.scale10 (16 - lead)
    ⟨divRoundEven scaled.num scaled.den, lead - 16⟩

end Decimal
end Metastore
