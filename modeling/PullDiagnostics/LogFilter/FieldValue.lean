import PullDiagnostics.Decimal.Nearest
import PullDiagnostics.Decimal.Shortest
import PullDiagnostics.LogFilter.Pattern

/-!
# The values of fields

A directive may ask for a field with a value: a truth value, a number, or any text that a
pattern matches. A value is read as the first of these that it can be. It is written back in
its own form, so that a number may come out with other digits; a double is never written with
an exponent.
-/

namespace PullDiagnostics.LogFilter

/-- The value that a field has to have. -/
inductive FieldValue where
  | truth (b : Bool)
  /-- A double that is a number or infinite. -/
  | double (bits : UInt64)
  | notANumber
  | natural (n : Nat)
  | integer (n : Int)
  | pattern (text : List Char)
  deriving DecidableEq, Inhabited

namespace FieldValue

/-- Reads `true` and `false`. -/
def readTruth? (text : List Char) : Option FieldValue :=
  if text = "true".toList then some (.truth true)
  else if text = "false".toList then some (.truth false)
  else none

/-- Reads a text of digits. -/
def readDigits? (text : List Char) : Option Nat :=
  if !text.isEmpty && text.all Text.isDigit then some (Text.numeral text) else none

/-- A sign before a number: whether it is negative, and what follows. -/
def readSign : List Char → Bool × List Char
  | '-' :: rest => (true, rest)
  | '+' :: rest => (false, rest)
  | text => (false, text)

/-- Reads a whole number of 64 bits, with no sign or with either. -/
def readWhole? (text : List Char) : Option FieldValue := do
  let (negative, digits) := readSign text
  let n ← readDigits? digits
  if text.head? = some '-' then
    if negative && n ≤ 0x8000000000000000 then some (.integer (-Int.ofNat n)) else none
  else if n < UInt64.size then some (.natural n) else none

/-- Reads an exponent, which is zero if there is none. -/
def readExponent? : List Char → Option Int
  | [] => some 0
  | c :: rest =>
      if c = 'e' || c = 'E' then
        let (negative, digits) := readSign rest
        (readDigits? digits).map fun n => if negative then -Int.ofNat n else Int.ofNat n
      else none

/-- Reads the size of a double: digits, of which some may stand after a point, and an
exponent. -/
def readSize? (text : List Char) : Option Nat := do
  let whole := text.takeWhile Text.isDigit
  let (fraction, rest) := match text.drop whole.length with
    | '.' :: rest => (rest.takeWhile Text.isDigit, rest.dropWhile Text.isDigit)
    | rest => ([], rest)
  if whole.isEmpty && fraction.isEmpty then none
  else
    let exponent ← readExponent? rest
    some (Decimal.nearest (Text.numeral (whole ++ fraction)) (exponent - fraction.length))

/-- Reads a double. What is infinite and what is no number has names, in letters of either
case. -/
def readDouble? (text : List Char) : Option FieldValue :=
  let (negative, rest) := readSign text
  let signed (size : Nat) : FieldValue :=
    .double (UInt64.ofNat (if negative then size + 0x8000000000000000 else size))
  let name := String.ofList (rest.map Char.toLower)
  if name = "nan" then some .notANumber
  else if name = "inf" || name = "infinity" then some (signed Decimal.infinityBits)
  else (readSize? rest).map signed

/-- Reads a value. -/
def parse? (text : List Char) : Option FieldValue :=
  (readTruth? text).or <| (readWhole? text).or <| (readDouble? text).or <|
    if isPattern text then some (.pattern text) else none

/-- No double is written with an exponent, and a whole one without a point. -/
def doubleLayout : Decimal.Layout := ⟨-400, 400, []⟩

/-- The size of a double, with a sign: doubles are ordered as these numbers are. -/
def signedSize (bits : UInt64) : Int :=
  let n := bits.toNat
  if n < 0x8000000000000000 then Int.ofNat n else -Int.ofNat (n - 0x8000000000000000)

/-- The text of a value. -/
def render : FieldValue → List Char
  | .truth true => "true".toList
  | .truth false => "false".toList
  | .double bits =>
      if signedSize bits = Decimal.infinityBits then "inf".toList
      else if signedSize bits = -Decimal.infinityBits then "-inf".toList
      else doubleLayout.writeDouble bits
  | .notANumber => "NaN".toList
  | .natural n => Decimal.digits n
  | .integer n => Decimal.ofInt n
  | .pattern text => text

/-- The place of a kind of value in the order of kinds. -/
def kindRank : FieldValue → Nat
  | .truth _ => 0
  | .double _ => 1
  | .notANumber => 2
  | .natural _ => 3
  | .integer _ => 4
  | .pattern _ => 5

/-- The order of values: that of their kinds, then that of their sizes or texts. -/
def order : FieldValue → FieldValue → Ordering
  | .truth a, .truth b => compare a.toNat b.toNat
  | .double a, .double b => compare (signedSize a) (signedSize b)
  | .natural a, .natural b => compare a b
  | .integer a, .integer b => compare a b
  | .pattern a, .pattern b => Text.order a b
  | a, b => compare a.kindRank b.kindRank

end FieldValue

end PullDiagnostics.LogFilter
