-- Sets of characters as lists of ranges of their numbers, which is how
-- the tables of a property are written down.
namespace QueryGate.Text

/-- Some range of `ranges` holds `c`, both ends counted in. -/
def inRanges (ranges : List (Nat × Nat)) (c : Char) : Bool :=
  ranges.any fun r => r.1 ≤ c.toNat && c.toNat ≤ r.2

end QueryGate.Text
