import PullDiagnostics.Text.Utf8

/-!
# Percent encoding

A part of a URL is written in ASCII: a byte that may not stand for itself in that part is
written as a percent sign and its two hexadecimal digits in upper case. Which bytes these
are depends on the part, so every part has its own set. Bytes outside ASCII belong to every
set. Decoding turns each percent sign that has two digits after it into a byte and leaves
everything else alone.

* `encode_nil` and `encode_cons` walk through the bytes of an encoded text.
-/

namespace PullDiagnostics.Percent

/-- The characters that may not stand for themselves in a part of a URL. -/
structure EncodeSet where
  holds : Char → Bool

/-- Controls. -/
def controls : EncodeSet where
  holds c := c.toNat < 0x20 || c.toNat == 0x7F

/-- A set with some more characters. -/
def EncodeSet.add (set : EncodeSet) (more : List Char) : EncodeSet where
  holds c := set.holds c || more.contains c

/-- What is encoded in a fragment. -/
def fragment : EncodeSet := controls.add [' ', '"', '<', '>', '\x60']

/-- What is encoded in a path. -/
def path : EncodeSet := fragment.add ['#', '?', '\x7b', '\x7d']

/-- What is encoded in a path that is built from names: also what would end a segment or
look like an encoded byte. -/
def pathSegment : EncodeSet := path.add ['/', '%', '\\']

/-- What is encoded in a user name or password. -/
def userInfo : EncodeSet := path.add ['/', ':', ';', '=', '@', '[', '\\', ']', '^', '|']

/-- What is encoded in a query. -/
def query : EncodeSet := controls.add [' ', '"', '#', '<', '>']

/-- What is encoded in the query of a URL with a well-known scheme. -/
def specialQuery : EncodeSet := query.add ['\'']

/-- Whether a byte is encoded. -/
def EncodeSet.encodes (set : EncodeSet) (b : UInt8) : Bool :=
  0x80 ≤ b || set.holds (asciiChar b)

/-- A byte in its encoded form. -/
def escape (b : UInt8) : List Char :=
  ['%', Hex.upperDigit (b.toNat / 16), Hex.upperDigit (b.toNat % 16)]

/-- A byte as it stands in a part of a URL. -/
def encodeByte (set : EncodeSet) (b : UInt8) : List Char :=
  if set.encodes b then escape b else [asciiChar b]

/-- Bytes as they stand in a part of a URL. -/
def encode (set : EncodeSet) (bytes : Bytes) : List Char :=
  bytes.flatMap (encodeByte set)

/-- A text as it stands in a part of a URL. -/
def encodeText (set : EncodeSet) (text : List Char) : List Char :=
  encode set (Utf8.encode text)

theorem encode_nil (set : EncodeSet) : encode set [] = [] := rfl

theorem encode_cons (set : EncodeSet) (b : UInt8) (bytes : Bytes) :
    encode set (b :: bytes) = encodeByte set b ++ encode set bytes := rfl

/-- The bytes that a text stands for. -/
def decode : List Char → Bytes
  | [] => []
  | '%' :: high :: low :: rest =>
      match Hex.value? high, Hex.value? low with
      | some h, some l => UInt8.ofNat (16 * h + l) :: decode rest
      | _, _ => String.utf8EncodeChar '%' ++ decode (high :: low :: rest)
  | c :: rest => String.utf8EncodeChar c ++ decode rest

end PullDiagnostics.Percent
