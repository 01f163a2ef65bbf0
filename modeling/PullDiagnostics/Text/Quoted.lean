import PullDiagnostics.Text.Combining
import PullDiagnostics.Text.Unseen
import PullDiagnostics.Text.Utf8

/-!
# Quoted text

Messages show a text they were given between double quotes, so that its ends and its unseen
characters can be told. A quote and a backslash get a backslash before them, the common
controls have short names, and a character that prints nothing or changes the one before it
is written as its number.
-/

namespace PullDiagnostics.Text

/-- How a character is written between quotes. -/
def quoteChar (c : Char) : List Char :=
  if c = '\x00' then ['\\', '0']
  else if c = '\t' then ['\\', 't']
  else if c = '\r' then ['\\', 'r']
  else if c = '\n' then ['\\', 'n']
  else if c = '"' then ['\\', '"']
  else if c = '\\' then ['\\', '\\']
  else if 0x20 ≤ c.toNat && c.toNat < 0x7F then [c]
  else if isUnseen c || isCombining c then
    ['\\', 'u', '\x7b'] ++ Hex.ofNat c.toNat ++ ['\x7d']
  else [c]

/-- A text between quotes. -/
def quote (text : List Char) : List Char :=
  '"' :: (text.flatMap quoteChar ++ ['"'])

/-- A string between quotes. -/
def quoted (s : String) : String :=
  String.ofList (quote s.toList)

/-- The character that a byte string starts with, and what follows it. -/
def firstChar? (bytes : Bytes) : Option (Char × Bytes) :=
  (List.range 4).findSome? fun n =>
    match Utf8.decode? (bytes.take (n + 1)) with
    | some [c] => some (c, bytes.drop (n + 1))
    | _ => none

/-- The bytes of a name as they are shown between quotes: its text, and two digits for each
byte that belongs to no text. The length of the bytes is fuel enough. -/
def quoteBytes : (fuel : Nat) → Bytes → List Char
  | _, [] => []
  | 0, _ => []
  | fuel + 1, b :: rest =>
      match firstChar? (b :: rest) with
      | some (c, rest) => quoteChar c ++ quoteBytes fuel rest
      | none =>
          ['\\', 'x', Hex.upperDigit (b.toNat / 16), Hex.upperDigit (b.toNat % 16)] ++
            quoteBytes fuel rest

/-- A name between quotes. -/
def quotedBytes (bytes : Bytes) : String :=
  String.ofList ('"' :: (quoteBytes bytes.length bytes ++ ['"']))

end PullDiagnostics.Text
