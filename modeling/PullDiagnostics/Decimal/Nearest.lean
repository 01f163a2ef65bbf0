/-!
# The double nearest to a decimal

A double has 53 bits, or fewer where it is very small. The one nearest to a fraction is found
by dividing: the quotient is the whole number of units in the last place, and the remainder
says whether the next one is nearer. A tie goes to the even one of the two.
-/

namespace PullDiagnostics.Decimal

/-- The bits of the double with no sign that is larger than all others. -/
def infinityBits : Nat := 0x7FF0000000000000

/-- The least number with 53 bits, the length of the digits of a double. -/
def leastFull : Nat := 0x10000000000000

/-- The bits of `units · 2 ^ exponent` for at most `2 * leastFull` units; `exponent` is the
least one if there are fewer than `leastFull`. -/
def doubleBits (units : Nat) (exponent : Int) : Nat :=
  let (units, exponent) :=
    if units = 2 * leastFull then (leastFull, exponent + 1) else (units, exponent)
  if 971 < exponent then infinityBits
  else if units < leastFull then units
  else (exponent + 1075).toNat * leastFull + (units - leastFull)

/-- The whole number nearest to a fraction, the even one of two. -/
def roundDivision (n d : Nat) : Nat :=
  let whole := n / d
  let twice := 2 * (n % d)
  if twice < d then whole
  else if d < twice then whole + 1
  else if whole % 2 = 0 then whole else whole + 1

/-- A fraction in units of `2 ^ exponent`. -/
def inUnits (n d : Nat) (exponent : Int) : Nat × Nat :=
  (n <<< (-exponent).toNat, d <<< exponent.toNat)

/-- The exponent of the last place of the double nearest to a fraction. -/
def lastPlace (n d : Nat) : Int :=
  let guess := Int.ofNat n.log2 - Int.ofNat d.log2 - 52
  let (a, b) := inUnits n d guess
  max (-1074) (if a / b < leastFull then guess - 1 else guess)

/-- The bits of the double nearest to `n / d`. -/
def nearestFraction (n d : Nat) : Nat :=
  if n = 0 then 0
  else
    let exponent := lastPlace n d
    let (a, b) := inUnits n d exponent
    doubleBits (roundDivision a b) exponent

/-- The bits of the double nearest to `digits · 10 ^ exponent`. What is far beyond the largest
double is not computed, and neither is what is far below the smallest. -/
def nearest (digits : Nat) (exponent : Int) : Nat :=
  let size := exponent + Int.ofNat (Nat.toDigits 10 digits).length
  if digits = 0 || size < -330 then 0
  else if 310 < size then infinityBits
  else nearestFraction (digits * Nat.pow 10 exponent.toNat) (Nat.pow 10 (-exponent).toNat)

end PullDiagnostics.Decimal
