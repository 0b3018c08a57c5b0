-- The shortest decimal that reads back as a given double. All reals of an
-- interval around a double round to it; on the coarsest decimal grid that
-- has a point in this interval, the point nearest to the double is taken.
import QueryGate.Decimal.Double

namespace QueryGate

/-- The number `digits * 10 ^ exponent`. -/
structure Decimal where
  digits : Nat
  exponent : Int
deriving DecidableEq, Repr, Inhabited

namespace Decimal

/-- The same number with its trailing zeros moved into the exponent, at most `fuel` of them. -/
def stripZeros : Nat → Decimal → Decimal
  | 0, d => d
  | fuel + 1, d =>
    if d.digits ≠ 0 ∧ d.digits % 10 = 0 then stripZeros fuel ⟨d.digits / 10, d.exponent + 1⟩ else d

/-- The power of ten of the first digit of a fraction that is not zero. -/
def leadingExponent (num den : Nat) : Int :=
  if den ≤ num then (Nat.toDigits 10 (num / den)).length - 1
  else -((Nat.toDigits 10 ((den + num - 1) / num - 1)).length : Int)

end Decimal

/-! ## The interval and its grids -/

/-- The reals that round to a double, in quarters of its last place over `den`. -/
structure RoundingInterval where
  low : Nat
  centre : Nat
  high : Nat
  den : Nat
  closed : Bool

namespace RoundingInterval

/-- Below a power of two the doubles lie twice as close as above it. The ends round to the double
when its mantissa is even. -/
def ofDouble (d : Double) : RoundingInterval :=
  let m := d.mantissa
  let unit := Nat.pow 2 d.scale
  let below := if m = Double.leadingBit ∧ 0 < d.scale then 1 else 2
  ⟨(4 * m - below) * unit, 4 * m * unit, (4 * m + 2) * unit, 4 * Double.denominator, m % 2 = 0⟩

/-- The interval on the scale at which the grid of step `10 ^ exponent` is that of whole numbers. -/
def onGrid (i : RoundingInterval) (exponent : Int) : RoundingInterval :=
  if 0 ≤ exponent then { i with den := i.den * Nat.pow 10 exponent.toNat }
  else
    let f := Nat.pow 10 (-exponent).toNat
    { i with low := i.low * f, centre := i.centre * f, high := i.high * f }

def holds (i : RoundingInterval) (n : Nat) : Bool :=
  let x := n * i.den
  if i.closed then i.low ≤ x && x ≤ i.high else i.low < x && x < i.high

/-- The whole number in the interval that is nearest to the centre; of two that are equally near, the
even one. -/
def nearestWhole? (i : RoundingInterval) : Option Nat :=
  let c := i.centre / i.den
  let r := i.centre % i.den
  let lowerFirst := 2 * r < i.den || (2 * r == i.den && c % 2 == 0)
  let tries := if lowerFirst then [c, c + 1] else [c + 1, c]
  tries.find? i.holds

end RoundingInterval

/-! ## The digits -/

/-- The shortest decimal of a finite double's absolute value. Seventeen digits are always enough. -/
def Double.shortest (d : Double) : Decimal :=
  if d.mantissa = 0 then ⟨0, 0⟩
  else
    let i := RoundingInterval.ofDouble d
    let lead := Decimal.leadingExponent i.centre i.den
    let hit := (List.range 17).findSome? fun (n : Nat) =>
      let exponent := lead - (n : Int)
      ((i.onGrid exponent).nearestWhole?).map fun c => (⟨c, exponent⟩ : Decimal)
    (hit.getD ⟨0, 0⟩).stripZeros 18

end QueryGate
