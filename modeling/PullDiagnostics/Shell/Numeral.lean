import PullDiagnostics.Text.Utf8

/-!
# Numbers in the bytes of a script

How the digits of whole numbers are read: decimal, octal after a zero, and hexadecimal. What
stands after the digits is given back.
-/

namespace PullDiagnostics.Shell

/-- The byte of a character, which is one of ASCII. -/
def ascii (c : Char) : UInt8 := c.toNat.toUInt8

namespace Numeral

/-- Whether a byte is an octal digit. -/
def isOctal (b : UInt8) : Bool :=
  ascii '0' ≤ b && b ≤ ascii '7'

/-- The number of up to some octal digits, and the bytes after them. -/
def readOctal (value : Nat) : (digits : Nat) → Bytes → Nat × Bytes
  | 0, bytes => (value, bytes)
  | _, [] => (value, [])
  | n + 1, b :: rest =>
      if isOctal b then readOctal (8 * value + (b.toNat - 48)) n rest else (value, b :: rest)

/-- Whether a byte is a decimal digit. -/
def isDigit (b : UInt8) : Bool :=
  ascii '0' ≤ b && b ≤ ascii '9'

/-- The number of some decimal digits. -/
def decimal (digits : Bytes) : Nat :=
  digits.foldl (fun n d => 10 * n + (d.toNat - 48)) 0

/-- Blanks that may stand before a number. -/
def isBlank (b : UInt8) : Bool :=
  b = 0x20 || (0x09 ≤ b && b ≤ 0x0D)

/-- The value of a hexadecimal digit. -/
def hexValue? (b : UInt8) : Option Nat :=
  Hex.value? (Char.ofNat b.toNat)

/-- The number of hexadecimal digits at the start of a text, and what follows them. -/
def readHex (value : Nat) : Bytes → Nat × Bytes
  | [] => (value, [])
  | b :: rest =>
      match hexValue? b with
      | some v => readHex (16 * value + v) rest
      | none => (value, b :: rest)

/-- Whether a number begins with the mark of a hexadecimal one. -/
def hasHexMark (digits : Bytes) : Bool :=
  match digits with
  | b :: x :: _ => b = ascii '0' && (x = ascii 'x' || x = ascii 'X')
  | _ => false

/-- A sign before a number, which may stand after blanks: whether it is negative, and what
follows. -/
def readSign (text : Bytes) : Bool × Bytes :=
  match text.dropWhile isBlank with
  | b :: rest =>
      if b = ascii '-' then (true, rest) else if b = ascii '+' then (false, rest)
      else (false, b :: rest)
  | [] => (false, [])

/-- The number that a text starts with, and what follows it: decimal, octal after a zero, or
hexadecimal after `0x`. There may be blanks and a sign before it. -/
def readInteger? (text : Bytes) : Option (Int × Bytes) :=
  let (negative, digits) := readSign text
  let signed (n : Nat) : Int := if negative then -n else n
  match digits with
  | [] => none
  | b :: rest =>
      if hasHexMark digits && ((rest.drop 1).head?.bind hexValue?).isSome then
        let (value, left) := readHex 0 (rest.drop 1)
        some (signed value, left)
      else if b = ascii '0' then
        let (value, left) := readOctal 0 rest.length rest
        some (signed value, left)
      else if isDigit b then
        some (signed (decimal (digits.takeWhile isDigit)), digits.dropWhile isDigit)
      else none

end Numeral

end PullDiagnostics.Shell
