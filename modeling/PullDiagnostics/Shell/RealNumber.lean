import PullDiagnostics.Decimal.Rounded
import PullDiagnostics.Shell.Numeral

/-!
# Real numbers in formats

How a real number is read from an argument, as the nearest double, and how it is written: with
a point, with an exponent, in the shorter of both ways, or in hexadecimal digits.
-/

namespace PullDiagnostics.Shell

/-- The size of a real number. -/
inductive Magnitude where
  /-- The number `m · 2 ^ q`. -/
  | finite (m : Nat) (q : Int)
  | infinite
  | notANumber
  deriving DecidableEq, Inhabited

/-- A real number. -/
structure RealNumber where
  negative : Bool := false
  size : Magnitude
  deriving DecidableEq, Inhabited

namespace RealNumber

/-! ### Reading -/

/-- What a text spells at its start, what follows, and whether no double is near. -/
structure Reading where
  size : Magnitude
  left : Bytes
  beyond : Bool := false

/-- The size that the bits of a double without a sign stand for. -/
def sizeOfBits (bits : Nat) : Magnitude :=
  if bits = Decimal.infinityBits then .infinite
  else
    let (_, m, q, _) := Decimal.binaryParts (UInt64.ofNat bits)
    .finite m q

/-- Whether a text begins with a word, in letters of either case. -/
def startsWith (word : String) (text : Bytes) : Bool :=
  (text.take word.length).map (fun b => (asciiChar b).toLower) = word.toList

/-- The exponent after one of two letters, if there is one; and what follows. -/
def readExponent (small capital : Char) (text : Bytes) : Int × Bytes :=
  match text with
  | b :: rest =>
      let (negative, digits) : Bool × Bytes :=
        match rest with
        | s :: more =>
            if s = ascii '-' then (true, more) else if s = ascii '+' then (false, more)
            else (false, rest)
        | [] => (false, [])
      let n := Numeral.decimal (digits.takeWhile Numeral.isDigit)
      if (b = ascii small || b = ascii capital) && digits.head?.any Numeral.isDigit then
        (if negative then -n else n, digits.dropWhile Numeral.isDigit)
      else (0, text)
  | [] => (0, [])

/-- The digits before and after a point, and what follows them. -/
def readPointed (isDigit : UInt8 → Bool) (text : Bytes) : Bytes × Bytes × Bytes :=
  let whole := text.takeWhile isDigit
  match text.drop whole.length with
  | b :: rest =>
      if b = ascii '.' && !(whole.isEmpty && (rest.takeWhile isDigit).isEmpty) then
        (whole, rest.takeWhile isDigit, rest.dropWhile isDigit)
      else (whole, [], b :: rest)
  | [] => (whole, [], [])

/-- Whether no double is near the number `n / d`, of which the bits of the nearest one are
given: it is too large, or so small that digits of it are lost. -/
def isBeyond (n d bits : Nat) : Bool :=
  bits = Decimal.infinityBits ||
    (n ≠ 0 && bits < Decimal.leastFull && (bits = 0 || n <<< 1074 ≠ bits * d))

/-- Exponents beyond this one lead to no double. -/
def exponentLimit : Int := 100000

/-- Reads the size of a number in hexadecimal digits. -/
def readHex (text : Bytes) : Reading :=
  let (whole, fraction, left) := readPointed (fun b => (Numeral.hexValue? b).isSome) text
  let (exponent, left) := readExponent 'p' 'P' left
  let n := (Numeral.readHex 0 (whole ++ fraction)).1
  let exponent := max (-exponentLimit) (min exponentLimit exponent) - 4 * fraction.length
  let (n, d) := (n <<< exponent.toNat, 1 <<< (-exponent).toNat)
  let bits := Decimal.nearestFraction n d
  { size := sizeOfBits bits, left, beyond := isBeyond n d bits }

/-- Reads the size of a number. -/
def readSize? (text : Bytes) : Option Reading :=
  if startsWith "infinity" text then some { size := .infinite, left := text.drop 8 }
  else if startsWith "inf" text then some { size := .infinite, left := text.drop 3 }
  else if startsWith "nan" text then some { size := .notANumber, left := text.drop 3 }
  else
    let (hexWhole, hexFraction, _) :=
      readPointed (fun b => (Numeral.hexValue? b).isSome) (text.drop 2)
    if Numeral.hasHexMark text && !(hexWhole ++ hexFraction).isEmpty then
      some (readHex (text.drop 2))
    else
      let (whole, fraction, left) := readPointed Numeral.isDigit text
      if (whole ++ fraction).isEmpty then none
      else
        let (exponent, left) := readExponent 'e' 'E' left
        let n := Numeral.decimal (whole ++ fraction)
        let exponent := exponent - fraction.length
        let bits := Decimal.nearest n exponent
        let isFar := n ≠ 0 && (bits = 0 || bits = Decimal.infinityBits)
        some { size := sizeOfBits bits, left
               beyond := isFar ||
                isBeyond (n * Nat.pow 10 exponent.toNat) (Nat.pow 10 (-exponent).toNat) bits }

/-- Reads a number that a text starts with: the number, what follows, and whether no double is
near. -/
def read? (text : Bytes) : Option (RealNumber × Bytes × Bool) :=
  let (negative, digits) := Numeral.readSign text
  (readSize? digits).map fun r => (⟨negative, r.size⟩, r.left, r.beyond)

/-! ### Writing -/

/-- How a number is to be written. -/
inductive Form where
  | fixed
  | scientific
  /-- The shorter of both ways, with a number of digits that count. -/
  | general
  | hexadecimal

/-- How the parts of a number are put together: whether a point is shown that nothing stands
after, and whether zeros at the end are. -/
structure Style where
  pointAlways : Bool := false
  keepsZeros : Bool := true

/-- A text without zeros at its end. -/
def dropZeros (digits : List Char) : List Char :=
  (digits.reverse.dropWhile (· = '0')).reverse

/-- Digits with a point between them. -/
def Style.join (style : Style) (whole fraction : List Char) : List Char :=
  let fraction := if style.keepsZeros then fraction else dropZeros fraction
  whole ++ if fraction.isEmpty && !style.pointAlways then [] else '.' :: fraction

/-- An exponent with its sign. -/
def exponentText (letter : Char) (width : Nat) (exponent : Int) : List Char :=
  let ds := Decimal.digits exponent.natAbs
  letter :: (if exponent < 0 then '-' else '+') :: (Decimal.zeros (width - ds.length) ++ ds)

/-- A size with a point. -/
def fixedText (style : Style) (m : Nat) (q : Int) (places : Nat) : List Char :=
  let (whole, fraction) := Decimal.pointed places (Decimal.unitsOf m q places)
  style.join whole fraction

/-- A size with an exponent. -/
def scientificText (style : Style) (m : Nat) (q : Int) (places : Nat) : List Char :=
  let (units, exponent) := Decimal.withExponent m q places
  let (whole, fraction) := Decimal.pointed places units
  style.join whole fraction ++ exponentText 'e' 2 exponent

/-- A size in the shorter of both ways. -/
def generalText (pointAlways : Bool) (m : Nat) (q : Int) (digits : Nat) : List Char :=
  let digits := max 1 digits
  let style : Style := { pointAlways, keepsZeros := pointAlways }
  let (_, exponent) := Decimal.withExponent m q (digits - 1)
  if -4 ≤ exponent && exponent < digits then fixedText style m q (digits - 1 - exponent).toNat
  else scientificText style m q (digits - 1)

/-- The number of hexadecimal digits after the point of a double. -/
def hexPlaces : Nat := 13

/-- A size in hexadecimal digits, of which all are shown that count if no number of them is
asked for. -/
def hexText (pointAlways : Bool) (m : Nat) (q : Int) (places : Option Nat) : List Char :=
  let shown := min hexPlaces (places.getD hexPlaces)
  let units := Decimal.roundDivision m (1 <<< (4 * (hexPlaces - shown)))
  let ds := Hex.padded (shown + 1) units
  let fraction := ds.drop 1 ++ Decimal.zeros (places.getD 0 - hexPlaces)
  let style : Style := { pointAlways, keepsZeros := places.isSome }
  ['0', 'x'] ++ style.join (ds.take 1) fraction ++
    exponentText 'p' 1 (if m = 0 then 0 else q + 52)

/-- The text of a size, in small letters. -/
def sizeText (form : Form) (pointAlways : Bool) (places : Option Nat) : Magnitude → List Char
  | .infinite => "inf".toList
  | .notANumber => "nan".toList
  | .finite m q =>
      match form with
      | .fixed => fixedText { pointAlways } m q (places.getD 6)
      | .scientific => scientificText { pointAlways } m q (places.getD 6)
      | .general => generalText pointAlways m q (places.getD 6)
      | .hexadecimal => hexText pointAlways m q places

end RealNumber

end PullDiagnostics.Shell
