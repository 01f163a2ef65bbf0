import PullDiagnostics.Json.Basic
import PullDiagnostics.Bytes

/-!
# Writing JSON

A value is written without blanks. In a string only the quote, the backslash and the control
characters are escaped; a control character without a short escape is written with four
hexadecimal digits. Doubles have the fewest digits that read back.
-/

namespace PullDiagnostics.Json

/-- Doubles are written without an exponent while their first digit stands between the fifth
place after the point and the sixteenth before it. -/
def doubleLayout : Decimal.Layout := ⟨-5, 15, ['.', '0']⟩

/-- The text of a number. -/
def writeNumber : Number → List Char
  | .integer n => Decimal.ofInt n
  | .double bits => doubleLayout.writeDouble bits

/-- How a character is written in a string. -/
def writeChar (c : Char) : List Char :=
  if c = '"' then ['\\', '"']
  else if c = '\\' then ['\\', '\\']
  else if c = '\x08' then ['\\', 'b']
  else if c = '\x0c' then ['\\', 'f']
  else if c = '\n' then ['\\', 'n']
  else if c = '\r' then ['\\', 'r']
  else if c = '\t' then ['\\', 't']
  else if c.toNat < 0x20 then ['\\', 'u', '0', '0'] ++ Hex.padded 2 c.toNat
  else [c]

/-- A string with its quotes. -/
def writeString (s : String) : List Char :=
  '"' :: (s.toList.flatMap writeChar ++ ['"'])

mutual

/-- The text of a value. -/
def write : Json → List Char
  | .null => ['n', 'u', 'l', 'l']
  | .bool true => ['t', 'r', 'u', 'e']
  | .bool false => ['f', 'a', 'l', 's', 'e']
  | .number n => writeNumber n
  | .string s => writeString s
  | .array items => '[' :: (writeItems items ++ [']'])
  | .object members => '\x7b' :: (writeMembers members ++ ['\x7d'])

/-- The items of an array, with commas between them. -/
def writeItems : List Json → List Char
  | [] => []
  | [item] => write item
  | item :: rest => write item ++ ',' :: writeItems rest

/-- The members of an object, with commas between them. -/
def writeMembers : List (String × Json) → List Char
  | [] => []
  | [(key, value)] => writeString key ++ ':' :: write value
  | (key, value) :: rest => writeString key ++ ':' :: (write value ++ ',' :: writeMembers rest)

end

/-- The text of a value as a string. -/
def render (j : Json) : String :=
  String.ofList (write j)

end PullDiagnostics.Json
