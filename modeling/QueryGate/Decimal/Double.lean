-- Numbers of double precision, held as their 64 bits. Arithmetic on them
-- is done on fractions of whole numbers and rounded once, to the nearest
-- double, a tie going to the even one; so each result is exact by
-- construction and can be computed inside a proof.
namespace QueryGate

/-- A number of double precision, by its bits: the sign, eleven bits of exponent and fifty-two of
fraction. -/
structure Double where
  bits : UInt64
deriving DecidableEq, Repr, Inhabited

namespace Double

/-- The bit of the sign, the highest of the 64. -/
def signBit : Nat := 0x8000000000000000

/-- The lowest bit of the exponent, which is also the one that a mantissa has before its fraction. -/
def leadingBit : Nat := 0x10000000000000

/-- The bits of the positive infinity, one more than those of the greatest finite double. -/
def infinityBits : Nat := 0x7FF0000000000000

/-- A double from its sign and the other 63 bits. -/
def ofSignAndBits (negative : Bool) (magnitude : Nat) : Double :=
  ⟨UInt64.ofNat (if negative then signBit + magnitude else magnitude)⟩

def isNegative (d : Double) : Bool := signBit ≤ d.bits.toNat

/-- All bits but the sign. They grow with the absolute value. -/
def magnitude (d : Double) : Nat := d.bits.toNat % signBit

def isInfinite (d : Double) : Bool := d.magnitude == infinityBits

/-- The absolute value of a finite double is `mantissa * 2 ^ (scale - 1074)`. -/
def mantissa (d : Double) : Nat :=
  if d.magnitude < leadingBit then d.magnitude else leadingBit + d.magnitude % leadingBit

def scale (d : Double) : Nat := d.magnitude / leadingBit - 1

/-! ## Rounding -/

/-- The least double above zero is one part of so many. -/
def denominator : Nat := Nat.pow 2 1074

/-- The whole number nearest to a fraction, a tie going to the even one. -/
def nearestEven (num den : Nat) : Nat :=
  let q := num / den
  let r := num % den
  if 2 * r < den then q
  else if den < 2 * r then q + 1
  else if q % 2 = 0 then q else q + 1

/-- The bits of the double nearest to a fraction. The scale is the one at which the mantissa has 53
bits, or the least there is. A mantissa that rounds up to 2^53 carries into the exponent by itself. -/
def nearestBits (num den : Nat) : Nat :=
  if num = 0 then 0
  else
    let guess := 1074 + num.log2 - (den.log2 + 53)
    let scale :=
      if 2 * leadingBit * (den * Nat.pow 2 guess) ≤ num * denominator then guess + 1 else guess
    min (scale * leadingBit + nearestEven (num * denominator) (den * Nat.pow 2 scale)) infinityBits

/-- The double nearest to a fraction, an infinity when it is past the greatest finite one. -/
def nearest (negative : Bool) (num den : Nat) : Double :=
  ofSignAndBits negative (nearestBits num den)

/-- The double nearest to `digits * 10 ^ exponent`. Beyond the ends of the range the power of ten is
never computed. -/
def ofDecimal (negative : Bool) (digits : Nat) (exponent : Int) : Double :=
  let size := (Nat.toDigits 10 digits).length + exponent
  if digits = 0 ∨ size < -400 then ofSignAndBits negative 0
  else if 400 < size then ofSignAndBits negative infinityBits
  else if 0 ≤ exponent then nearest negative (digits * Nat.pow 10 exponent.toNat) 1
  else nearest negative digits (Nat.pow 10 (-exponent).toNat)

/-! ## Arithmetic of numbers that are not negative -/

/-- The absolute value of a finite double as a fraction. -/
def numerator (d : Double) : Nat := d.mantissa * Nat.pow 2 d.scale

def addition (a b : Double) : Double := nearest false (a.numerator + b.numerator) denominator

def product (a b : Double) : Double :=
  nearest false (a.numerator * b.numerator) (denominator * denominator)

def quotient (a b : Double) : Double := nearest false a.numerator b.numerator

def timesNat (a : Double) (n : Nat) : Double := nearest false (a.numerator * n) denominator

def overNat (a : Double) (n : Nat) : Double := nearest false a.numerator (denominator * n)

/-- The nearest whole number, a tie going away from zero. -/
def roundHalfUp (a : Double) : Nat := (2 * a.numerator + denominator) / (2 * denominator)

def ofNat (n : Nat) : Double := nearest false n 1

def negated (a : Double) : Double := ofSignAndBits (!a.isNegative) a.magnitude

/-! ## Powers of ten -/

def powerOfTen (n : Nat) : Double := nearest false (Nat.pow 10 n) 1

/-- The highest power of ten that is a double. -/
def mostTens : Nat := 308

/-- A double times a power of ten, which is made a double first. A power that is too low for a double
is taken in two steps; after two such steps nothing is left of a number of 64 bits. -/
def timesTenTo (a : Double) (exponent : Int) : Double :=
  let tens := exponent.natAbs
  if a.magnitude = 0 then a
  else if 0 ≤ exponent then
    if tens ≤ mostTens then a.product (powerOfTen tens) else ofSignAndBits false infinityBits
  else if tens ≤ mostTens then a.quotient (powerOfTen tens)
  else if tens ≤ 2 * mostTens then
    (a.quotient (powerOfTen mostTens)).quotient (powerOfTen (tens - mostTens))
  else ofSignAndBits false 0

end Double

end QueryGate
