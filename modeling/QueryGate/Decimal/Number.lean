-- A number as it is written in a document or in JSON: whole numbers that
-- fit 64 bits, with or without a sign, stay exact, all others are doubles.
-- A double is made from as many digits as fit 64 bits and a power of ten,
-- and it is rounded wherever these two are, and once more at the end.
import QueryGate.Decimal.Double
import QueryGate.Text.Unsigned

namespace QueryGate

inductive Number where
  | int (n : Int)
  | double (d : Double)
deriving DecidableEq, Repr, Inhabited

namespace Number

/-- The parts of a number's text. The point and the exponent are absent where they are not written;
the digits of the exponent come with its sign. -/
structure Literal where
  negative : Bool
  whole : List Char
  fraction : Option (List Char) := none
  exponent : Option (Bool × List Char) := none

/-- The power of ten that an exponent's text denotes. -/
def exponentValue : Option (Bool × List Char) → Int
  | none => 0
  | some (true, ds) => -(Text.digitsValue ds : Int)
  | some (false, ds) => Text.digitsValue ds

/-- The digits of a number as far as 64 bits hold them, and the power of ten that they count. -/
structure Significand where
  digits : Nat := 0
  exponent : Int := 0

namespace Significand

/-- Adds the digits before the point. From the first one that does not fit, each only raises the power
of ten. -/
def addWhole (s : Significand) : List Char → Significand
  | [] => s
  | c :: rest =>
    let n := 10 * s.digits + Text.digitsValue [c]
    if n < UInt64.size then addWhole { s with digits := n } rest
    else { s with exponent := s.exponent + (c :: rest).length }

/-- Adds the digits after the point, up to the first one that does not fit. -/
def addFraction (s : Significand) : List Char → Significand
  | [] => s
  | c :: rest =>
    let n := 10 * s.digits + Text.digitsValue [c]
    if n < UInt64.size then addFraction ⟨n, s.exponent - 1⟩ rest else s

end Significand

/-- The double of a literal. -/
def Literal.double (l : Literal) : Double :=
  let s := (({} : Significand).addWhole l.whole).addFraction (l.fraction.getD [])
  let d := (Double.ofNat s.digits).timesTenTo (s.exponent + exponentValue l.exponent)
  if l.negative then d.negated else d

/-- The number of a literal. Minus zero is a double, since no whole number has that sign; a literal
past the range of doubles is an infinity. -/
def ofLiteral (l : Literal) : Number :=
  let n := Text.digitsValue l.whole
  let isWhole := l.fraction.isNone && l.exponent.isNone
  if isWhole && !l.negative && n < UInt64.size then .int n
  else if isWhole && l.negative && 0 < n && n ≤ Double.signBit then .int (-n)
  else .double l.double

/-- The number is one that a double can hold. -/
def isFinite : Number → Bool
  | .int _ => true
  | .double d => !d.isInfinite

/-- The number, if it is a whole one from 0 to 2^64 - 1. -/
def unsigned? : Number → Option UInt64
  | .int n => if 0 ≤ n ∧ n < UInt64.size then some (UInt64.ofNat n.toNat) else none
  | .double _ => none

end Number

end QueryGate
