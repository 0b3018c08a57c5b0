-- How the digits of a decimal are laid out as text: where the point goes,
-- and when a power of ten is written instead of zeros.
import QueryGate.Decimal.Shortest

namespace QueryGate

/-- A way to write decimals. The exponents of the first digit that are written out with zeros, and
whether a whole number keeps a point and a zero. -/
structure DecimalLayout where
  plain : Int → Bool
  wholePoint : Bool

namespace DecimalLayout

/-- The digits `ds`, the first of them weighing `10 ^ lead`, without a power of ten. -/
def plainText (layout : DecimalLayout) (ds : List Char) (lead : Int) : List Char :=
  if lead < 0 then ['0', '.'] ++ List.replicate (-lead - 1).toNat '0' ++ ds
  else
    let whole := lead.toNat + 1
    if ds.length ≤ whole then
      ds ++ List.replicate (whole - ds.length) '0' ++ (if layout.wholePoint then ['.', '0'] else [])
    else ds.take whole ++ ['.'] ++ ds.drop whole

/-- The digits with one of them before the point, and the power of ten with its sign. -/
def scientificText (ds : List Char) (lead : Int) : List Char :=
  let point := if ds.length ≤ 1 then [] else ['.']
  let sign := if lead < 0 then '-' else '+'
  ds.take 1 ++ point ++ ds.drop 1 ++ ['e', sign] ++ Nat.toDigits 10 lead.natAbs

def text (layout : DecimalLayout) (d : Decimal) : List Char :=
  let ds := Nat.toDigits 10 d.digits
  let lead := d.exponent + ds.length - 1
  if layout.plain lead then layout.plainText ds lead else scientificText ds lead

/-- The shortest text of a double, with its sign; zero has one too. -/
def ofDouble (layout : DecimalLayout) (d : Double) : List Char :=
  let body := layout.text d.shortest
  if d.isNegative then '-' :: body else body

end DecimalLayout

end QueryGate
