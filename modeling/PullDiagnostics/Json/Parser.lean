import PullDiagnostics.Json.Basic
import PullDiagnostics.Text.Utf8

/-!
# Reading JSON

A reader takes the bytes that are left and gives back a value with the bytes after it. An
error says how many bytes were left when it was found, from which its line and its column
follow. A number without a point and an exponent is an integer if 64 bits hold it, with or
without a sign; any other number is a double.

* `parse` reads a text that holds one value and nothing else but blanks.
* `parseFirst` reads the value that a text starts with as it is written: the members of an
  object in the order of the text, a key perhaps more than once. `Json.merged` has the later
  of two values of a key replace the earlier one.
-/

namespace PullDiagnostics.Json

/-- Why a text is not JSON. -/
inductive SyntaxFault where
  | endInList
  | endInObject
  | endInString
  | endInValue
  | noColon
  | noListComma
  | noObjectComma
  | badWord
  | noValue
  | badEscape
  | badNumber
  | numberTooLarge
  | notText
  | controlInString
  | keyNotString
  | loneSurrogate
  | brokenSurrogate
  | trailingComma
  | trailingBytes
  | tooDeep
  deriving DecidableEq

/-- What is said of a fault, its place apart. -/
def SyntaxFault.message : SyntaxFault → String
  | .endInList => "EOF while parsing a list"
  | .endInObject => "EOF while parsing an object"
  | .endInString => "EOF while parsing a string"
  | .endInValue => "EOF while parsing a value"
  | .noColon => "expected `:`"
  | .noListComma => "expected `,` or `]`"
  | .noObjectComma => "expected `,` or `\x7d`"
  | .badWord => "expected ident"
  | .noValue => "expected value"
  | .badEscape => "invalid escape"
  | .badNumber => "invalid number"
  | .numberTooLarge => "number out of range"
  | .notText => "invalid unicode code point"
  | .controlInString => "control character (\\u0000-\\u001F) found while parsing a string"
  | .keyNotString => "key must be a string"
  | .loneSurrogate => "lone leading surrogate in hex escape"
  | .brokenSurrogate => "unexpected end of hex escape"
  | .trailingComma => "trailing comma"
  | .trailingBytes => "trailing characters"
  | .tooDeep => "recursion limit exceeded"

/-- A fault with the number of bytes that were left after its place. -/
structure SyntaxError where
  fault : SyntaxFault
  left : Nat
  deriving DecidableEq

/-- A fault at the place reached. -/
def failHere {α : Type} (fault : SyntaxFault) (rest : Bytes) : Except SyntaxError α :=
  .error ⟨fault, rest.length⟩

/-- A fault at the next byte, which counts as read; at the end there is none. -/
def failNext {α : Type} (fault : SyntaxFault) (rest : Bytes) : Except SyntaxError α :=
  .error ⟨fault, rest.length - 1⟩

/-- Whether a byte is a blank between tokens. -/
def isGap (b : UInt8) : Bool :=
  b == 0x20 || b == 0x0A || b == 0x09 || b == 0x0D

/-- The bytes after the blanks. -/
def skipGap (bytes : Bytes) : Bytes :=
  bytes.dropWhile isGap

/-- Whether a byte is a decimal digit. -/
def isDigitByte (b : UInt8) : Bool :=
  0x30 ≤ b && b ≤ 0x39

/-- The rest of a word whose first letter has been read. -/
def readWord : (word : List Char) → Bytes → Except SyntaxError (Unit × Bytes)
  | [], rest => .ok ((), rest)
  | _ :: _, [] => failHere .endInValue []
  | c :: word, b :: rest =>
      if asciiChar b = c then readWord word rest else failHere .badWord rest

/-! ### Numbers -/

/-- The least number that 64 bits do not hold. -/
def wordSize : Nat := UInt64.size

/-- Digits read into a number while 64 bits hold it. The count of digits taken comes with it,
and whether a digit was left because it did not fit. -/
structure DigitRun where
  value : Nat
  taken : Nat
  full : Bool
  rest : Bytes

/-- Reads digits onto a number. -/
def readDigits (value taken : Nat) : Bytes → DigitRun
  | [] => ⟨value, taken, false, []⟩
  | b :: rest =>
      if isDigitByte b then
        let next := value * 10 + (b.toNat - 0x30)
        if next < wordSize then readDigits next (taken + 1) rest
        else ⟨value, taken, true, b :: rest⟩
      else ⟨value, taken, false, b :: rest⟩

/-- A power of ten as a double. -/
def powerOfTen (n : Nat) : Float :=
  Float.ofScientific 1 false n

/-- `value · 10 ^ exponent` as a double, or nothing if it is too large. The value is rounded
first and then multiplied or divided, by at most `10 ^ 308` at a time; a very small number is
divided more than once. -/
def doubleOfParts : (fuel : Nat) → (f : Float) → (exponent : Int) → Option Float
  | 0, f, _ => some f
  | fuel + 1, f, exponent =>
      if exponent.natAbs ≤ 308 then
        if 0 ≤ exponent then
          let g := f * powerOfTen exponent.natAbs
          if g.isInf then none else some g
        else some (f / powerOfTen exponent.natAbs)
      else if f == 0 then some f
      else if 0 ≤ exponent then none
      else doubleOfParts fuel (f / powerOfTen 308) (exponent + 308)

/-- A signed double. -/
def signedDouble (positive : Bool) (f : Float) : Number :=
  .double (if positive then f else -f).toBits

/-- The number with the given parts. -/
def readParts (positive : Bool) (value : Nat) (exponent : Int) (rest : Bytes) :
    Except SyntaxError (Number × Bytes) :=
  match doubleOfParts 8 (Float.ofNat value) (max exponent (-2200)) with
  | some f => .ok (signedDouble positive f, rest)
  | none => failHere .numberTooLarge rest

/-- The largest exponent that is read; a longer one makes the number zero or too large. -/
def exponentLimit : Nat := 0x80000000

/-- The digits of an exponent, the first of which has been read; nothing if it passes the
limit. -/
def readExponentDigits (value : Nat) : Bytes → Option Nat × Bytes
  | [] => (some value, [])
  | b :: rest =>
      if isDigitByte b then
        let next := value * 10 + (b.toNat - 0x30)
        if next < exponentLimit then readExponentDigits next rest else (none, rest)
      else (some value, b :: rest)

/-- The exponent of a number, after its letter. -/
def readExponent (positive : Bool) (value : Nat) (start : Int) (bytes : Bytes) :
    Except SyntaxError (Number × Bytes) :=
  let (up, bytes) := match bytes with
    | 0x2B :: rest => (true, rest)
    | 0x2D :: rest => (false, rest)
    | rest => (true, rest)
  match bytes with
  | [] => failHere .endInValue []
  | b :: rest =>
      if isDigitByte b then
        match readExponentDigits (b.toNat - 0x30) rest with
        | (some n, rest) =>
            readParts positive value (if up then start + n else start - n) rest
        | (none, rest) =>
            if value ≠ 0 ∧ up then failHere .numberTooLarge rest
            else .ok (signedDouble positive 0, rest.dropWhile isDigitByte)
      else failHere .badNumber rest

/-- An optional exponent, then the end of the number. -/
def readScale (positive : Bool) (value : Nat) (exponent : Int) :
    Bytes → Except SyntaxError (Number × Bytes)
  | [] => readParts positive value exponent []
  | b :: rest =>
      if b = 0x65 ∨ b = 0x45 then readExponent positive value exponent rest
      else readParts positive value exponent (b :: rest)

/-- The digits after the point. Digits that no longer fit are passed over. -/
def readFraction (positive : Bool) (value : Nat) (exponent : Int) (bytes : Bytes) :
    Except SyntaxError (Number × Bytes) :=
  let run := readDigits value 0 bytes
  if run.full then
    readScale positive run.value (exponent - run.taken) (run.rest.dropWhile isDigitByte)
  else if run.taken = 0 then
    match run.rest with
    | [] => failNext .endInValue []
    | rest => failNext .badNumber rest
  else readScale positive run.value (exponent - run.taken) run.rest

/-- What follows the digits of an integer. -/
def readAfterInteger (positive : Bool) (value : Nat) (bytes : Bytes) :
    Except SyntaxError (Number × Bytes) :=
  match bytes with
  | 0x2E :: rest => readFraction positive value 0 rest
  | 0x65 :: rest => readExponent positive value 0 rest
  | 0x45 :: rest => readExponent positive value 0 rest
  | rest =>
      if positive then .ok (.integer value, rest)
      else if value = 0 ∨ 0x8000000000000000 < value then
        .ok (signedDouble false (Float.ofNat value), rest)
      else .ok (.integer (-value), rest)

/-- What follows the digits of an integer that 64 bits do not hold: every further digit counts
as a factor of ten. -/
def readLongInteger (positive : Bool) (value : Nat) (bytes : Bytes) :
    Except SyntaxError (Number × Bytes) :=
  let exponent := (bytes.takeWhile isDigitByte).length
  match bytes.dropWhile isDigitByte with
  | 0x2E :: rest => readFraction positive value exponent rest
  | rest => readScale positive value exponent rest

/-- A number after its sign. -/
def readNumber (positive : Bool) (bytes : Bytes) : Except SyntaxError (Number × Bytes) :=
  match bytes with
  | [] => failHere .endInValue []
  | b :: rest =>
      if b = 0x30 then
        match rest with
        | c :: _ => if isDigitByte c then failNext .badNumber rest
            else readAfterInteger positive 0 rest
        | [] => readAfterInteger positive 0 rest
      else if isDigitByte b then
        let run := readDigits (b.toNat - 0x30) 1 rest
        if run.full then readLongInteger positive run.value run.rest
        else readAfterInteger positive run.value run.rest
      else failHere .badNumber rest

/-! ### Strings -/

/-- The number that four hexadecimal digits spell. -/
def hexNumber (digits : Bytes) : Option Nat :=
  digits.foldl (fun acc b => do pure (16 * (← acc) + (← Hex.value? (asciiChar b)))) (some 0)

/-- Four hexadecimal digits. -/
def readFourDigits (bytes : Bytes) : Except SyntaxError (Nat × Bytes) :=
  match bytes with
  | a :: b :: c :: d :: rest =>
      match hexNumber [a, b, c, d] with
      | some n => .ok (n, rest)
      | none => failHere .badEscape rest
  | _ => failHere .endInString []

/-- The second half of a character outside the first plane, after its first half. -/
def readLowSurrogate (high : Nat) (bytes : Bytes) : Except SyntaxError (Char × Bytes) :=
  match bytes with
  | [] => failHere .endInString []
  | 0x5C :: 0x75 :: rest => do
      let (low, rest) ← readFourDigits rest
      if 0xDC00 ≤ low ∧ low ≤ 0xDFFF then
        .ok (Char.ofNat (0x10000 + (high - 0xD800) * 0x400 + (low - 0xDC00)), rest)
      else failHere .loneSurrogate rest
  | 0x5C :: [] => failHere .endInString []
  | 0x5C :: _ :: rest => failHere .brokenSurrogate rest
  | _ :: rest => failHere .brokenSurrogate rest

/-- A character given by its number. -/
def readNumbered (bytes : Bytes) : Except SyntaxError (Char × Bytes) := do
  let (n, rest) ← readFourDigits bytes
  if 0xDC00 ≤ n ∧ n ≤ 0xDFFF then failHere .loneSurrogate rest
  else if 0xD800 ≤ n ∧ n ≤ 0xDBFF then readLowSurrogate n rest
  else .ok (Char.ofNat n, rest)

/-- An escape after its backslash. -/
def readEscape (bytes : Bytes) : Except SyntaxError (Char × Bytes) :=
  match bytes with
  | [] => failHere .endInString []
  | 0x75 :: rest => readNumbered rest
  | b :: rest =>
      match asciiChar b with
      | '"' => .ok ('"', rest)
      | '\\' => .ok ('\\', rest)
      | '/' => .ok ('/', rest)
      | 'b' => .ok ('\x08', rest)
      | 'f' => .ok ('\x0c', rest)
      | 'n' => .ok ('\n', rest)
      | 'r' => .ok ('\r', rest)
      | 't' => .ok ('\t', rest)
      | _ => failHere .badEscape rest

/-- The rest of a string, after its opening quote; the bytes read so far are kept the last one
first. -/
def readStringBytes : (fuel : Nat) → (read : Bytes) → Bytes → Except SyntaxError (Bytes × Bytes)
  | 0, _, rest => failHere .endInString rest
  | _ + 1, _, [] => failHere .endInString []
  | fuel + 1, read, b :: rest =>
      if b = 0x22 then .ok (read.reverse, rest)
      else if b = 0x5C then
        match readEscape rest with
        | .error e => .error e
        | .ok (c, rest) =>
            readStringBytes fuel ((String.utf8EncodeChar c).reverse ++ read) rest
      else if b < 0x20 then failHere .controlInString rest
      else readStringBytes fuel (b :: read) rest

/-- A string after its opening quote. -/
def readString (bytes : Bytes) : Except SyntaxError (String × Bytes) := do
  let (content, rest) ← readStringBytes (bytes.length + 1) [] bytes
  match Utf8.decode? content with
  | some text => .ok (String.ofList text, rest)
  | none => failHere .notText rest

/-! ### Values -/

mutual

/-- A value. `depth` is how deep arrays and objects may still nest. -/
def readValue : (fuel depth : Nat) → Bytes → Except SyntaxError (Json × Bytes)
  | 0, _, rest => failNext .tooDeep rest
  | fuel + 1, depth, bytes =>
      match skipGap bytes with
      | [] => failNext .endInValue []
      | b :: rest =>
          match asciiChar b with
          | 'n' => do
              let (_, rest) ← readWord ['u', 'l', 'l'] rest
              .ok (.null, rest)
          | 't' => do
              let (_, rest) ← readWord ['r', 'u', 'e'] rest
              .ok (.bool true, rest)
          | 'f' => do
              let (_, rest) ← readWord ['a', 'l', 's', 'e'] rest
              .ok (.bool false, rest)
          | '-' => do
              let (n, rest) ← readNumber false rest
              .ok (.number n, rest)
          | '"' => do
              let (s, rest) ← readString rest
              .ok (.string s, rest)
          | '[' =>
              match depth with
              | depth + 2 => readItems fuel (depth + 1) true [] rest
              | _ => failNext .tooDeep (b :: rest)
          | '\x7b' =>
              match depth with
              | depth + 2 => readMembers fuel (depth + 1) true [] rest
              | _ => failNext .tooDeep (b :: rest)
          | _ =>
              if isDigitByte b then do
                let (n, rest) ← readNumber true (b :: rest)
                .ok (.number n, rest)
              else failNext .noValue (b :: rest)

/-- The items of an array up to its end; those read so far are kept the last one first. -/
def readItems :
    (fuel depth : Nat) → (atStart : Bool) → (read : List Json) → Bytes →
      Except SyntaxError (Json × Bytes)
  | 0, _, _, _, rest => failNext .tooDeep rest
  | fuel + 1, depth, atStart, read, bytes =>
      match skipGap bytes with
      | [] => failNext .endInList []
      | b :: rest =>
          if b = 0x5D then .ok (.array read.reverse, rest)
          else if atStart then do
            let (item, rest) ← readValue fuel depth (b :: rest)
            readItems fuel depth false (item :: read) rest
          else if b = 0x2C then
            match skipGap rest with
            | [] => failNext .endInValue []
            | c :: rest =>
                if c = 0x5D then failNext .trailingComma (c :: rest)
                else do
                  let (item, rest) ← readValue fuel depth (c :: rest)
                  readItems fuel depth false (item :: read) rest
          else failNext .noListComma (b :: rest)

/-- The members of an object up to its end; those read so far are kept the last one first. -/
def readMembers :
    (fuel depth : Nat) → (atStart : Bool) → (read : List (String × Json)) → Bytes →
      Except SyntaxError (Json × Bytes)
  | 0, _, _, _, rest => failNext .tooDeep rest
  | fuel + 1, depth, atStart, read, bytes =>
      match skipGap bytes with
      | [] => failNext .endInObject []
      | b :: rest =>
          if b = 0x7D then .ok (.object read.reverse, rest)
          else if atStart then
            if b = 0x22 then readMember fuel depth read rest
            else failNext .keyNotString (b :: rest)
          else if b = 0x2C then
            match skipGap rest with
            | [] => failNext .endInValue []
            | c :: rest =>
                if c = 0x22 then readMember fuel depth read rest
                else if c = 0x7D then failNext .trailingComma (c :: rest)
                else failNext .keyNotString (c :: rest)
          else failNext .noObjectComma (b :: rest)

/-- One member after the opening quote of its key, then the others. -/
def readMember :
    (fuel depth : Nat) → (read : List (String × Json)) → Bytes → Except SyntaxError (Json × Bytes)
  | 0, _, _, rest => failNext .tooDeep rest
  | fuel + 1, depth, read, bytes =>
      match readString bytes with
      | .error e => .error e
      | .ok (key, rest) =>
          match skipGap rest with
          | [] => failNext .endInObject []
          | b :: rest =>
              if b = 0x3A then
                match readValue fuel depth rest with
                | .error e => .error e
                | .ok (value, rest) =>
                    readMembers fuel depth false ((key, value) :: read) rest
              else failNext .noColon (b :: rest)

end

/-- How deep arrays and objects may nest, with the value itself. -/
def depthLimit : Nat := 128

/-- The value that a byte string starts with as it is written, and what follows it. Every reader
takes a byte before it calls the next, but for the two calls that lead from a member to its
value, so three times the length is fuel enough. -/
def parseFirst (bytes : Bytes) : Except SyntaxError (Json × Bytes) :=
  readValue (3 * bytes.length + 4) depthLimit bytes

/-- The value that a byte string holds. -/
def parse (bytes : Bytes) : Except SyntaxError Json :=
  match parseFirst bytes with
  | .error e => .error e
  | .ok (value, rest) =>
      match skipGap rest with
      | [] => .ok value.merged
      | rest => failNext .trailingBytes rest

/-- The line of a place and the bytes before it in that line. -/
def place (bytes : Bytes) (index : Nat) : Nat × Nat :=
  let before := bytes.take index
  (1 + before.count 0x0A, (before.reverse.takeWhile fun b => b ≠ 0x0A).length)

/-- The whole message of an error in a text. -/
def SyntaxError.message (e : SyntaxError) (text : Bytes) : String :=
  let (line, column) := place text (text.length - e.left)
  e.fault.message ++ " at line " ++ toString line ++ " column " ++ toString column

end PullDiagnostics.Json
