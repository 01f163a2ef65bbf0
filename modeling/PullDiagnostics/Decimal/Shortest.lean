/-!
# The shortest decimal that reads back

A positive floating-point number is `m · 2 ^ q` for whole numbers `m` and `q`. The decimals
that read back as it fill an interval around it, which holds its ends exactly if `m` is even.
Among the decimals in that interval `shortest` takes one with the fewest digits, and of two
with as few the one nearer to the number.

The search goes through the numbers of digits in order. On the grid of decimals with a given
number of digits, only the two neighbours of the number have to be tried: if any point of the
grid lies in the interval, so does one of these.

All arithmetic is on natural numbers, in quarters of a unit in the last place.
-/

namespace PullDiagnostics.Decimal

/-- A positive decimal: `digits · 10 ^ exponent`. -/
structure Scientific where
  digits : Nat
  exponent : Int
  deriving DecidableEq

/-- The interval of numbers that read back as one number, with the number itself; all three
over one denominator. -/
structure Interval where
  low : Nat
  value : Nat
  high : Nat
  denominator : Nat
  holdsEnds : Bool

/-- The interval of `m · 2 ^ q`. The gap below is half as wide as the gap above when `m` is
the least number with its length, which `narrow` says. -/
def Interval.of (m : Nat) (q : Int) (narrow : Bool) : Interval :=
  let scale := 1 <<< (q - 2).toNat
  { low := (4 * m - (if narrow then 1 else 2)) * scale
    value := 4 * m * scale
    high := (4 * m + 2) * scale
    denominator := 1 <<< (2 - q).toNat
    holdsEnds := m % 2 == 0 }

/-- The least `k ≥ start` with `denominator ≤ value · 10 ^ k`, looked for `fuel` times. -/
def leastShift (value denominator : Nat) : (fuel start : Nat) → Nat
  | 0, k => k
  | fuel + 1, k =>
      if denominator ≤ value * Nat.pow 10 k then k else leastShift value denominator fuel (k + 1)

/-- The exponent of the first digit of the number. -/
def Interval.leading (i : Interval) : Int :=
  if i.denominator ≤ i.value then
    Int.ofNat ((Nat.toDigits 10 (i.value / i.denominator)).length - 1)
  else
    - Int.ofNat (leastShift i.value i.denominator 400 1)

/-- The numerator of a decimal over the denominator of the interval, with the factor by which
the interval's own numerators have to be multiplied for a comparison. -/
def Interval.scaled (i : Interval) (d : Scientific) : Nat × Nat :=
  (d.digits * i.denominator * Nat.pow 10 d.exponent.toNat, Nat.pow 10 (-d.exponent).toNat)

/-- Whether a decimal reads back as the number. -/
def Interval.holds (i : Interval) (d : Scientific) : Bool :=
  let (n, factor) := i.scaled d
  if i.holdsEnds then i.low * factor ≤ n && n ≤ i.high * factor
  else i.low * factor < n && n < i.high * factor

/-- The distance of a decimal from the number, for decimals with one exponent. -/
def Interval.distance (i : Interval) (d : Scientific) : Nat :=
  let (n, factor) := i.scaled d
  let v := i.value * factor
  if n ≤ v then v - n else n - v

/-- The better of the two neighbours on the grid with the given exponent, if one reads back. A
tie goes to the even one. -/
def Interval.onGrid (i : Interval) (exponent : Int) : Option Scientific :=
  let below := i.value * Nat.pow 10 (-exponent).toNat / (i.denominator * Nat.pow 10 exponent.toNat)
  let a : Scientific := ⟨below, exponent⟩
  let b : Scientific := ⟨below + 1, exponent⟩
  match i.holds a, i.holds b with
  | true, true =>
      if i.distance a < i.distance b then some a
      else if i.distance b < i.distance a then some b
      else if below % 2 = 0 then some a else some b
  | true, false => some a
  | false, true => some b
  | false, false => none

/-- The first grid with a hit, from the coarsest on; `more` is the number of finer grids. -/
def Interval.search (i : Interval) : (more : Nat) → (exponent : Int) → Option Scientific
  | 0, exponent => i.onGrid exponent
  | more + 1, exponent =>
      match i.onGrid exponent with
      | some d => some d
      | none => i.search more (exponent - 1)

/-- A decimal without the zeros at its end. -/
def Scientific.trim : (fuel : Nat) → Scientific → Scientific
  | 0, d => d
  | fuel + 1, d =>
      if d.digits ≠ 0 ∧ d.digits % 10 = 0 then trim fuel ⟨d.digits / 10, d.exponent + 1⟩ else d

/-- The shortest decimal that reads back as `m · 2 ^ q`. Seventeen digits always suffice for a
number with 53 bits. -/
def shortest (m : Nat) (q : Int) (narrow : Bool) : Scientific :=
  let i := Interval.of m q narrow
  match i.search 16 i.leading with
  | some d => d.trim 20
  | none => ⟨0, 0⟩

/-- The parts of a double: whether it is negative, `m`, `q`, and whether the gap below it is
the narrow one. -/
def binaryParts (bits : UInt64) : Bool × Nat × Int × Bool :=
  let n := bits.toNat
  let negative := n >>> 63 == 1
  let e := (n >>> 52) % 0x800
  let fraction := n % 0x10000000000000
  if e = 0 then (negative, fraction, -1074, false)
  else (negative, fraction + 0x10000000000000, Int.ofNat e - 1075, fraction == 0 && e > 1)

/-- The digits of a natural number. -/
def digits (n : Nat) : List Char :=
  Nat.toDigits 10 n

/-- The digits of an integer, after a sign if it is negative. -/
def ofInt (n : Int) : List Char :=
  if n < 0 then '-' :: digits n.natAbs else digits n.natAbs

/-- How the text of a decimal is laid out: the exponents of the first digit for which it is
written without an exponent, and what stands after a whole number that is written so. -/
structure Layout where
  firstPlain : Int
  lastPlain : Int
  wholeEnd : List Char

/-- Zeros. -/
def zeros (n : Nat) : List Char :=
  List.replicate n '0'

/-- The text of a decimal. A point has a digit on either side, and an exponent has a sign. -/
def Layout.write (layout : Layout) (d : Scientific) : List Char :=
  let ds := digits d.digits
  let leading := d.exponent + Int.ofNat (ds.length - 1)
  if layout.firstPlain ≤ leading ∧ leading ≤ layout.lastPlain then
    if 0 ≤ d.exponent then ds ++ zeros d.exponent.toNat ++ layout.wholeEnd
    else if 0 ≤ leading then
      ds.take (leading.toNat + 1) ++ '.' :: ds.drop (leading.toNat + 1)
    else '0' :: '.' :: (zeros (-leading - 1).toNat ++ ds)
  else
    let tail := ds.drop 1
    ds.take 1 ++ (if tail.isEmpty then [] else '.' :: tail) ++
      'e' :: ((if leading < 0 then ['-'] else ['+']) ++ digits leading.natAbs)

/-- The text of a finite double. -/
def Layout.writeDouble (layout : Layout) (bits : UInt64) : List Char :=
  let (negative, m, q, narrow) := binaryParts bits
  let body := if m = 0 then '0' :: layout.wholeEnd else layout.write (shortest m q narrow)
  if negative then '-' :: body else body

end PullDiagnostics.Decimal
