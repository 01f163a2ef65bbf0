import PullDiagnostics.Json.Parser
import PullDiagnostics.Protocol.Message
import PullDiagnostics.Text.Blank

/-!
# Frames

On a stream of bytes every message stands in a frame: some headers, one of which tells how
long the message is, a blank line, and the message. Bytes come in pieces, so that the
beginning of a frame may be all there is; what goes wrong is seen as soon as the byte is there
that cannot be.
-/

namespace PullDiagnostics.Protocol

/-- What is at the beginning of a stream. -/
inductive Scan (α : Type) where
  /-- The end is not there yet. -/
  | unfinished
  | malformed
  | found (value : α) (rest : Bytes)
  deriving Inhabited

namespace Frame

/-! ### Headers -/

/-- Whether a byte may stand in the name of a header. -/
def isNameByte (b : UInt8) : Bool :=
  let c := asciiChar b
  b < 0x80 && (c.isAlphanum || "!#$%&'*+-.^_\x60|~".toList.contains c)

/-- Whether a byte may stand in the value of a header. -/
def isValueByte (b : UInt8) : Bool :=
  b = 0x09 || (0x20 ≤ b && b ≠ 0x7F)

/-- Whether a byte is a blank at an end of a value. -/
def isValueBlank (b : UInt8) : Bool :=
  b = 0x20 || b = 0x09

/-- A value without the blanks at its ends. -/
def trimValue (value : Bytes) : Bytes :=
  ((value.dropWhile isValueBlank).reverse.dropWhile isValueBlank).reverse

/-- Reads the name of a header and the colon after it. -/
def readName (name : Bytes) : Bytes → Scan Bytes
  | [] => .unfinished
  | b :: rest =>
      if b = 0x3A then .found name rest
      else if isNameByte b then readName (name ++ [b]) rest
      else .malformed

/-- Reads the value of a header and the end of its line. -/
def readHeaderValue (value : Bytes) : Bytes → Scan Bytes
  | [] => .unfinished
  | [b] =>
      if b = 0x0A then .found (trimValue value) []
      else if b = 0x0D || isValueByte b then .unfinished
      else .malformed
  | b :: c :: rest =>
      if b = 0x0A then .found (trimValue value) (c :: rest)
      else if b = 0x0D then
        if c = 0x0A then .found (trimValue value) rest else .malformed
      else if isValueByte b then readHeaderValue (value ++ [b]) (c :: rest)
      else .malformed

/-- Reads headers up to the blank line; there is room for so many. -/
def readHeaders (room : Nat) (bytes : Bytes) : Scan (List (Bytes × Bytes)) :=
  match bytes with
  | [] => .unfinished
  | b :: rest =>
      if b = 0x0A then .found [] rest
      else if b = 0x0D then
        match rest with
        | [] => .unfinished
        | c :: rest => if c = 0x0A then .found [] rest else .malformed
      else if !isNameByte b then .malformed
      else
        match room with
        | 0 => .malformed
        | room + 1 =>
            match readName [] (b :: rest) with
            | .unfinished => .unfinished
            | .malformed => .malformed
            | .found name rest =>
                match readHeaderValue [] rest with
                | .unfinished => .unfinished
                | .malformed => .malformed
                | .found value rest =>
                    match readHeaders room rest with
                    | .unfinished => .unfinished
                    | .malformed => .malformed
                    | .found others rest => .found ((name, value) :: others) rest

/-- How many headers a frame may have. -/
def maxHeaders : Nat := 2

/-- Reads a length of at most 64 bits. -/
def lengthOf? (text : List Char) : Option Nat :=
  let digits := match text with
    | '+' :: digits => digits
    | digits => digits
  if digits.isEmpty || !digits.all Text.isDigit then none
  else
    let n := Text.numeral digits
    if n < UInt64.size then some n else none

/-- Whether the text of messages is written as it has to be. -/
def isKnownCharset (text : List Char) : Bool :=
  let sets := (text.splitOn ';').tail.filterMap fun piece =>
    let name := "charset=".toList
    let piece := Text.trim piece
    if name.isPrefixOf piece then some (piece.drop name.length) else none
  match sets with
  | set :: _ => set = "utf-8".toList || set = "utf8".toList
  | [] => false

/-- The length that headers tell; the last one counts. -/
def lengthIn? (known : Option Nat) : List (Bytes × Bytes) → Option Nat
  | [] => known
  | (name, value) :: others =>
      if name = Utf8.encode "Content-Length".toList then
        match (Utf8.decode? value).bind lengthOf? with
        | some n => lengthIn? (some n) others
        | none => none
      else if name = Utf8.encode "Content-Type".toList then
        match Utf8.decode? value with
        | some text => if isKnownCharset text then lengthIn? known others else none
        | none => none
      else lengthIn? known others

/-! ### Messages -/

/-- What is at the beginning of a stream of messages. -/
inductive Start where
  /-- A frame is not complete; what there is after its headers, or of them, is left. -/
  | unfinished (left : Bytes)
  | malformed (e : ResponseError)
  /-- A frame without a message. -/
  | blank (rest : Bytes)
  | message (m : Message) (rest : Bytes)

/-- Reads the message of a frame. Text that starts with a value which is no message is told
apart from text that is no JSON. -/
def readBody (body : Bytes) : Except ResponseError Message :=
  match Utf8.decode? body with
  | none => .error .unparsable
  | some _ =>
      match Json.parseFirst body with
      | .error _ => .error .unparsable
      | .ok (j, rest) =>
          match Message.read? j with
          | none => .error .invalidRequest
          | some m => if (Json.skipGap rest).isEmpty then .ok m else .error .unparsable

/-- Reads the first frame of a stream. -/
def read (bytes : Bytes) : Start :=
  match readHeaders maxHeaders bytes with
  | .unfinished => .unfinished bytes
  | .malformed => .malformed .unparsable
  | .found headers rest =>
      match lengthIn? none headers with
      | none => .malformed .unparsable
      | some n =>
          if rest.length < n then .unfinished rest
          else if n = 0 then .blank rest
          else
            match readBody (rest.take n) with
            | .error e => .malformed e
            | .ok m => .message m (rest.drop n)

/-- The frame of a value. -/
def write (j : Json) : Bytes :=
  let body := Utf8.encode j.write
  Utf8.encode ("Content-Length: ".toList ++ Nat.toDigits 10 body.length ++ "\r\n\r\n".toList) ++
    body

end Frame

end PullDiagnostics.Protocol
