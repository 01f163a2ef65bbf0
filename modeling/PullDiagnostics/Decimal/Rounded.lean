import PullDiagnostics.Decimal.Nearest
import PullDiagnostics.Decimal.Shortest

/-!
# Decimals with a given number of places

A double `m · 2 ^ q` written with as many digits after the point as are asked for: the whole
number of units in the last place that is nearest to it, the even one of two.
-/

namespace PullDiagnostics.Decimal

/-- The whole number nearest to `m · 2 ^ q · 10 ^ places`. -/
def unitsOf (m : Nat) (q places : Int) : Nat :=
  roundDivision ((m <<< q.toNat) * Nat.pow 10 places.toNat)
    ((1 <<< (-q).toNat) * Nat.pow 10 (-places).toNat)

/-- The digits of a number of units before the point and after it. -/
def pointed (places units : Nat) : List Char × List Char :=
  let ds := digits units
  let full := zeros (places + 1 - ds.length) ++ ds
  full.splitAt (full.length - places)

/-- The units of a number with one digit before the point, and the exponent of that digit. -/
def withExponent (m : Nat) (q : Int) (places : Nat) : Nat × Int :=
  if m = 0 then (0, 0)
  else
    let exponent := (Interval.of m q false).leading
    let units := unitsOf m q (places - exponent)
    if units < Nat.pow 10 (places + 1) then (units, exponent) else (units / 10, exponent + 1)

end PullDiagnostics.Decimal
