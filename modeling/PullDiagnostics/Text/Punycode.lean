/-!
# Characters beyond ASCII, spelled in ASCII

A label of a name may spell characters beyond ASCII. What stands before its last hyphen are its
characters in ASCII; the letters and digits behind it tell where the other ones stand: each of
these is put in at a distance from the one before it, counted through the places in the text and
then through the characters. A distance is a number with digits of base thirty-six, lowest first;
how much a digit counts for depends on the distances before.

Distances are numbers of 32 bits, so a text that leads beyond these spells nothing.
-/

namespace PullDiagnostics.Text.Punycode

/-- The value of a digit. -/
def digit? (c : Char) : Option Nat :=
  if 'a' ≤ c && c ≤ 'z' then some (c.toNat - 97)
  else if '0' ≤ c && c ≤ '9' then some (c.toNat - 22)
  else none

/-- A number, if it has 32 bits. -/
def word? (n : Nat) : Option Nat :=
  if n < UInt32.size then some n else none

/-- The value below which a digit is the last one of its number. -/
def threshold (bias k : Nat) : Nat :=
  if k ≤ bias then 1 else if bias + 26 ≤ k then 26 else k - bias

/-- Reads a distance, which is added to `sum`: the sum and what follows. -/
def readDistance (bias : Nat) : (k weight sum : Nat) → List Char → Option (Nat × List Char)
  | _, _, _, [] => none
  | k, weight, sum, c :: rest => do
      let digit ← digit? c
      let sum ← word? (sum + (← word? (digit * weight)))
      let limit := threshold bias k
      if digit < limit then some (sum, rest)
      else readDistance bias (k + 36) (← word? (weight * (36 - limit))) sum rest

/-- A distance divided until it is small, with the number of digits that this takes off. -/
def shrink : (fuel : Nat) → (distance k : Nat) → Nat × Nat
  | 0, distance, k => (distance, k)
  | fuel + 1, distance, k =>
      if 455 < distance then shrink fuel (distance / 35) (k + 36) else (distance, k)

/-- The bias for the distance after one, with the number of characters that are there then. -/
def adapt (distance count : Nat) (isFirst : Bool) : Nat :=
  let damped := if isFirst then distance / 700 else distance / 2
  let (small, k) := shrink 32 (damped + damped / count) 0
  k + 36 * small / (small + 38)

/-- A text with a character put in at a place. -/
def insertAt : (place : Nat) → Char → List Char → List Char
  | 0, c, text => c :: text
  | _ + 1, c, [] => [c]
  | n + 1, c, d :: rest => d :: insertAt n c rest

/-- A text that is being spelled. -/
structure State where
  text : List Char
  /-- The number of the last character that was put in. -/
  code : Nat := 128
  /-- The place after it. -/
  place : Nat := 0
  bias : Nat := 72

/-- Reads one distance after another to the end. -/
def readDistances : (fuel : Nat) → State → List Char → Option (List Char)
  | _, s, [] => some s.text
  | 0, _, _ :: _ => none
  | fuel + 1, s, input => do
      let (sum, rest) ← readDistance s.bias 36 1 s.place input
      let count := s.text.length + 1
      let code := s.code + sum / count
      if code.isValidChar then
        let place := sum % count
        readDistances fuel
          { text := insertAt place (Char.ofNat code) s.text, code, place := place + 1
            bias := adapt (sum - s.place) count (s.place == 0) }
          rest
      else none

/-- The text that a text in ASCII spells. A hyphen at the start divides nothing. -/
def decode? (input : List Char) : Option (List Char) :=
  let spelled := (input.reverse.takeWhile (· != '-')).reverse
  let basic := input.take (input.length - spelled.length - 1)
  let spelled := if basic.isEmpty then input else spelled
  readDistances spelled.length { text := basic } spelled

/-! ### Spelling -/

/-- The digit of a value. -/
def digit (value : Nat) : Char :=
  if value < 26 then Char.ofNat (97 + value) else Char.ofNat (22 + value)

/-- The digits of a distance from some digit on; their number is that of the fuel at most. -/
def writeDistance (bias : Nat) : (fuel k distance : Nat) → List Char
  | 0, _, _ => []
  | fuel + 1, k, distance =>
      let limit := threshold bias k
      if distance < limit then [digit distance]
      else
        digit (limit + (distance - limit) % (36 - limit)) ::
          writeDistance bias fuel (k + 36) ((distance - limit) / (36 - limit))

/-- The spelling of a text in the making. -/
structure Spelling where
  /-- The digits so far. -/
  digits : List Char := []
  /-- The distance from the character that was put in last. -/
  distance : Nat := 0
  /-- How many characters are there by now. -/
  count : Nat
  isFirst : Bool := true
  bias : Nat := 72

/-- Passes a character of the text while those of a number are put in. The ones of lower numbers
are there already. -/
def Spelling.pass (code : Nat) (s : Spelling) (c : Char) : Spelling :=
  if c.toNat < code then { s with distance := s.distance + 1 }
  else if c.toNat = code then
    { digits := s.digits ++ writeDistance s.bias 32 36 s.distance
      count := s.count + 1
      isFirst := false
      bias := adapt s.distance (s.count + 1) s.isFirst }
  else s

/-- Puts in the characters from a number on, in the order of their numbers; there are at most as
many numbers as `fuel` says. -/
def Spelling.putIn (text : List Char) : (fuel code : Nat) → Spelling → List Char
  | 0, _, s => s.digits
  | fuel + 1, code, s =>
      match ((text.map Char.toNat).filter (code ≤ ·)).min? with
      | none => s.digits
      | some next =>
          let s := { s with distance := s.distance + (next - code) * (s.count + 1) }
          let s := text.foldl (pass next) s
          putIn text fuel (next + 1) { s with distance := s.distance + 1 }

/-- Whether a character is in ASCII. -/
def isBasic (c : Char) : Bool :=
  c.toNat < 128

/-- The text in ASCII that spells a text. -/
def encode (text : List Char) : List Char :=
  let basic := text.filter isBasic
  basic ++ (if basic.isEmpty then [] else ['-']) ++
    Spelling.putIn text text.length 128 { count := basic.length }

end PullDiagnostics.Text.Punycode
