-- Sums and products of 64 bits that stop at the greatest number instead
-- of wrapping around.
namespace QueryGate.Saturating

/-- The greatest number of 64 bits. -/
def greatest : Nat := UInt64.size - 1

/-- A number, or the greatest one in its place where it does not fit. -/
def clamp (n : Nat) : UInt64 := UInt64.ofNat (min n greatest)

def add (a b : UInt64) : UInt64 := clamp (a.toNat + b.toNat)

def mul (a b : UInt64) : UInt64 := clamp (a.toNat * b.toNat)

theorem toNat_clamp (n : Nat) : (clamp n).toNat = min n greatest := by
  have h : min n greatest < UInt64.size := by simp only [greatest, UInt64.size]; omega
  simp only [clamp, UInt64.toNat_ofNat']
  exact Nat.mod_eq_of_lt h

theorem toNat_add (a b : UInt64) : (add a b).toNat = min (a.toNat + b.toNat) greatest :=
  toNat_clamp _

end QueryGate.Saturating
