import PullDiagnostics.Text.Blank
import PullDiagnostics.Url.Label
import PullDiagnostics.Url.Percent

/-!
# Hosts

The host of a URL is a name or an address. Under a well-known scheme a name whose last
label is a number has to be an address of four bytes, and letters of a name have no case;
elsewhere a name is kept as it stands. An address of eight 16-bit pieces stands between
brackets; two colons in it stand for the zeros that are missing.

A name under a well-known scheme is kept in ASCII, however it is written.
-/

namespace PullDiagnostics

/-- The host of a URL. -/
inductive Host where
  /-- A name; it is empty where a URL has a place for a host but no host. -/
  | name (text : List Char)
  /-- An address of four bytes, as one number. -/
  | short (address : Nat)
  /-- An address of eight pieces of 16 bits each. -/
  | long (groups : List Nat)
  deriving DecidableEq, Inhabited

/-- Why a text is no URL. -/
inductive UrlError where
  | emptyHost
  | invalidName
  | invalidNameCharacter
  | invalidShortAddress
  | invalidLongAddress
  | invalidPort
  | relative
  deriving DecidableEq, Inhabited

/-- What is said of a text that is no URL. -/
def UrlError.message : UrlError → String
  | .emptyHost => "empty host"
  | .invalidName => "invalid international domain name"
  | .invalidNameCharacter => "invalid domain character"
  | .invalidShortAddress => "invalid IPv4 address"
  | .invalidLongAddress => "invalid IPv6 address"
  | .invalidPort => "invalid port number"
  | .relative => "relative URL without a base"

namespace Host

/-! ### Addresses of four bytes -/

/-- The number that digits of a base spell; `none` if one of them is no digit. -/
def numberInBase? (base : Nat) (digits : List Char) : Option Nat :=
  digits.foldlM (fun n c => do
    let d ← Hex.value? c
    if d < base then pure (base * n + d) else none) 0

/-- The number in a label: hexadecimal after `0x`, octal after another leading zero. -/
def labelNumber? : List Char → Option Nat
  | [] => none
  | ['0'] => some 0
  | '0' :: 'x' :: digits | '0' :: 'X' :: digits => numberInBase? 16 digits
  | '0' :: digits => numberInBase? 8 digits
  | digits => numberInBase? 10 digits

/-- The labels of a name without the empty one after a final dot. -/
def labels (name : List Char) : List (List Char) :=
  let parts := name.splitOn '.'
  if parts.length > 1 && parts.getLast? = some [] then parts.dropLast else parts

/-- Whether the last label of a name is a number, so that the name has to be an address. -/
def endsInNumber (name : List Char) : Bool :=
  match (labels name).getLast? with
  | none | some [] => false
  | some last => last.all Text.isDigit || (labelNumber? last).isSome

/-- The address of the numbers between the dots: the last one fills all bytes that the ones
before it leave. -/
def shortAddress? (numbers : List Nat) : Option Nat :=
  match numbers.getLast? with
  | none => none
  | some last =>
      let leading := numbers.dropLast
      let left := 8 * (4 - leading.length)
      if numbers.length ≤ 4 && last < 1 <<< left && leading.all (· < 256) then
        some ((leading.foldl (fun n b => 256 * n + b) 0) <<< left + last)
      else none

/-- Reads an address of four bytes. -/
def parseShort (name : List Char) : Except UrlError Host :=
  match ((labels name).mapM labelNumber?).bind shortAddress? with
  | some address => .ok (.short address)
  | none => .error .invalidShortAddress

/-! ### Addresses of eight pieces -/

/-- One byte of four in decimal, without leading zeros. -/
def byteNumber? (digits : List Char) : Option Nat :=
  let n := Text.numeral digits
  if digits.isEmpty || !digits.all Text.isDigit || (digits.length > 1 && digits.head? = some '0')
      || 255 < n then none
  else some n

/-- The two pieces that four decimal bytes stand for. -/
def embeddedGroups? (text : List Char) : Option (List Nat) :=
  match (text.splitOn '.').mapM byteNumber? with
  | some [a, b, c, d] => some [256 * a + b, 256 * c + d]
  | _ => none

/-- The pieces read so far and where among them zeros are missing. -/
structure Groups where
  read : List Nat := []
  gap : Option Nat := none

/-- Reads pieces from a text that starts with a piece or with the second of two colons. -/
def readGroups : (fuel : Nat) → Groups → List Char → Option Groups
  | 0, _, _ => none
  | _, state, [] => some state
  | fuel + 1, state, ':' :: rest =>
      if state.read.length = 8 || state.gap.isSome then none
      else readGroups fuel ⟨state.read ++ [0], some (state.read.length + 1)⟩ rest
  | fuel + 1, state, text =>
      if state.read.length = 8 then none
      else
        let digits := (text.take 4).takeWhile fun c => (Hex.value? c).isSome
        let value := digits.foldl (fun n c => 16 * n + (Hex.value? c).getD 0) 0
        match text.drop digits.length with
        | [] => some { state with read := state.read ++ [value] }
        | '.' :: _ =>
            if digits.isEmpty || 6 < state.read.length then none
            else (embeddedGroups? text).map fun two => { state with read := state.read ++ two }
        | ':' :: rest =>
            if rest.isEmpty then none
            else readGroups fuel { state with read := state.read ++ [value] } rest
        | _ => none

/-- Reads an address of eight pieces. -/
def parseLong (text : List Char) : Except UrlError Host :=
  let start : Option (Groups × List Char) :=
    match text with
    | ':' :: ':' :: rest => some (⟨[0], some 1⟩, rest)
    | ':' :: _ | [] | [_] => none
    | _ => some ({}, text)
  match start.bind fun (state, rest) => readGroups (text.length + 1) state rest with
  | none => .error .invalidLongAddress
  | some ⟨read, none⟩ =>
      if read.length = 8 then .ok (.long read) else .error .invalidLongAddress
  | some ⟨read, some gap⟩ =>
      .ok (.long (read.take gap ++ List.replicate (8 - read.length) 0 ++ read.drop gap))

/-- The position and length of the longest run of at least two zeros, the first one of
equal runs. -/
def longestZeros (groups : List Nat) : Option (Nat × Nat) :=
  let runs := (List.range groups.length).map fun i =>
    (i, ((groups.drop i).takeWhile (· == 0)).length)
  runs.foldl (fun best run =>
    match best with
    | none => if 2 ≤ run.2 then some run else none
    | some (_, n) => if n < run.2 then some run else best) none

/-- Pieces in hexadecimal with colons between them. -/
def writeGroups (groups : List Nat) : List Char :=
  List.intercalate [':'] (groups.map Hex.ofNat)

/-- The text of a host. -/
def write : Host → List Char
  | .name text => text
  | .short n =>
      List.intercalate ['.']
        ([n >>> 24 % 256, n >>> 16 % 256, n >>> 8 % 256, n % 256].map (Nat.toDigits 10))
  | .long groups =>
      match longestZeros groups with
      | none => '[' :: (writeGroups groups ++ [']'])
      | some (first, n) =>
          '[' :: (writeGroups (groups.take first) ++ [':', ':'] ++
            writeGroups (groups.drop (first + n)) ++ [']'])

/-! ### Names -/

/-- Characters that no name under a well-known scheme has. -/
def isDenied (c : Char) : Bool :=
  c.toNat ≤ 0x20 || c.toNat == 0x7F || c.isUpper ||
    ['%', '#', '/', ':', '<', '>', '?', '@', '[', '\\', ']', '^', '|'].contains c

/-- Characters that no other name has. -/
def isForbidden (c : Char) : Bool :=
  ['\x00', '\t', '\n', '\r', ' ', '#', '/', ':', '<', '>', '?', '@', '[', '\\', ']', '^',
    '|'].contains c

/-- The text between brackets, if a text that starts with a bracket ends with one. -/
def bracketed? (text : List Char) : Option (List Char) :=
  if text.getLast? = some ']' && 1 < text.length then some text.tail.dropLast else none

/-- The name in ASCII that a text stands for under a well-known scheme. -/
def asciiName? (text : List Char) : Option (List Char) :=
  (Label.normal? text).bind fun name =>
    let labels := name.splitOn '.'
    if name.any isDenied || !Label.areValid labels then none
    else some (List.intercalate ['.'] (labels.map Label.write))

/-- Reads the host of a URL with a well-known scheme. -/
def parseSpecial (text : List Char) : Except UrlError Host :=
  if text.head? = some '[' then
    match bracketed? text with
    | some inner => parseLong inner
    | none => .error .invalidLongAddress
  else
    match (Utf8.decode? (Percent.decode text)).bind asciiName? with
    | none => .error .invalidName
    | some written =>
        if written.isEmpty then .error .emptyHost
        else if endsInNumber written then parseShort written
        else .ok (.name written)

/-- Reads the host of any other URL. -/
def parseOther (text : List Char) : Except UrlError Host :=
  if text.head? = some '[' then
    match bracketed? text with
    | some inner => parseLong inner
    | none => .error .invalidLongAddress
  else if text.any isForbidden then .error .invalidNameCharacter
  else .ok (.name (Percent.encodeText Percent.controls text))

end Host

end PullDiagnostics
