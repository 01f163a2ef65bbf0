/-!
# Byte strings

Files, file names and the output of a checker are byte strings: nothing promises that they
are text. A byte string is a list of bytes, so that every operation on it is recursion on a
list.
-/

namespace PullDiagnostics

/-- A byte string. -/
abbrev Bytes := List UInt8

namespace Hex

/-- The lower-case hexadecimal digit of a number below sixteen. -/
def digit (n : Nat) : Char :=
  if n < 10 then Char.ofNat (48 + n) else Char.ofNat (87 + n)

/-- The upper-case hexadecimal digit of a number below sixteen. -/
def upperDigit (n : Nat) : Char :=
  if n < 10 then Char.ofNat (48 + n) else Char.ofNat (55 + n)

/-- The value of a hexadecimal digit of either case. -/
def value? (c : Char) : Option Nat :=
  if '0' ≤ c ∧ c ≤ '9' then some (c.toNat - 48)
  else if 'a' ≤ c ∧ c ≤ 'f' then some (c.toNat - 87)
  else if 'A' ≤ c ∧ c ≤ 'F' then some (c.toNat - 55)
  else none

/-- The shortest lower-case hexadecimal form of a number. -/
def ofNat (n : Nat) : List Char :=
  Nat.toDigits 16 n

/-- Exactly `width` lower-case digits of a number, the highest first. -/
def padded : (width : Nat) → (n : Nat) → List Char
  | 0, _ => []
  | width + 1, n => padded width (n / 16) ++ [digit (n % 16)]

/-- Two lower-case digits for each byte. -/
def ofBytes (bytes : Bytes) : List Char :=
  bytes.flatMap fun b => [digit (b.toNat / 16), digit (b.toNat % 16)]

/-- The bytes that pairs of digits spell, if every pair does. -/
def toBytes? : List Char → Option Bytes
  | [] => some []
  | [_] => none
  | high :: low :: rest => do
      let h ← value? high
      let l ← value? low
      let bytes ← toBytes? rest
      pure (UInt8.ofNat (16 * h + l) :: bytes)

end Hex

/-- A byte below 128, as the character it stands for. -/
def asciiChar (b : UInt8) : Char :=
  Char.ofNat b.toNat

end PullDiagnostics
