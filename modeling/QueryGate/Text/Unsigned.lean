-- Numbers of 64 bits as an operator types them: an optional plus sign and
-- then decimal digits, any number of leading zeros included.
namespace QueryGate.Text

/-- The number that a list of decimal digits denotes, the first digit weighing most. -/
def digitsValue (cs : List Char) : Nat :=
  cs.foldl (fun n c => 10 * n + (c.toNat - '0'.toNat)) 0

/-- A text without the plus sign it may start with. -/
def dropPlus : List Char → List Char
  | '+' :: rest => rest
  | cs => cs

/-- The number a text denotes, if it is one below 2^64. -/
def unsigned? (cs : List Char) : Option UInt64 :=
  let digits := dropPlus cs
  if digits ≠ [] ∧ digits.all Char.isDigit ∧ digitsValue digits < UInt64.size then
    some (UInt64.ofNat (digitsValue digits))
  else none

end QueryGate.Text
