import PullDiagnostics.Bytes

/-!
# Text in bytes: UTF-8

Text is written to bytes by `encode`. Reading bytes back is done by one automaton, which takes
a byte at a time and knows how many continuation bytes the open character still needs and in
which range the next one has to lie. A byte that cannot continue the open character ends it
as malformed and starts afresh, so each malformed stretch is the longest beginning of a
character.

* `exists_mem_of_mem_encode`: only characters below 128 are written with such bytes.
* `decode?` reads a byte string that is text throughout.
* `decodeLossy` puts the replacement character in the place of each malformed stretch.
-/

namespace PullDiagnostics.Utf8

/-- The bytes of a text. -/
def encode (text : List Char) : Bytes :=
  text.flatMap String.utf8EncodeChar

/-- A byte below 128 in a text is a character of it. -/
theorem exists_mem_of_mem_encode {text : List Char} {b : UInt8} (hb : b.toNat < 0x80)
    (h : b ∈ encode text) : ∃ c ∈ text, c.toNat = b.toNat := by
  obtain ⟨c, hc, hbc⟩ := List.mem_flatMap.mp h
  refine ⟨c, hc, ?_⟩
  change c.val.toNat = b.toNat
  unfold String.utf8EncodeChar at hbc
  -- The bytes of any longer form are above.
  simp only at hbc
  split at hbc
  next =>
    rw [List.mem_singleton] at hbc
    rw [hbc, UInt8.toNat_ofNat']
    omega
  next =>
    split at hbc
    · simp only [List.mem_cons, List.not_mem_nil, or_false] at hbc
      rcases hbc with rfl | rfl <;> rw [UInt8.toNat_ofNat'] at hb <;> omega
    · split at hbc
      · simp only [List.mem_cons, List.not_mem_nil, or_false] at hbc
        rcases hbc with rfl | rfl | rfl <;> rw [UInt8.toNat_ofNat'] at hb <;> omega
      · simp only [List.mem_cons, List.not_mem_nil, or_false] at hbc
        rcases hbc with rfl | rfl | rfl | rfl <;> rw [UInt8.toNat_ofNat'] at hb <;> omega

/-- A character whose first bytes have been read: the bits so far, the number of bytes still
needed, and the range in which the next one has to lie. -/
structure Partial where
  bits : Nat
  needed : Nat
  low : Nat
  high : Nat

/-- What one byte leads to when no character is open. -/
inductive Start where
  | whole (c : Char)
  | opens (p : Partial)
  | malformed

/-- The first byte of a character says how many follow. The second byte is limited where a
full range would admit a longer form than necessary, a surrogate or a number past the last
character. -/
def start (b : Nat) : Start :=
  if b < 0x80 then .whole (Char.ofNat b)
  else if 0xC2 ≤ b ∧ b ≤ 0xDF then .opens ⟨b - 0xC0, 1, 0x80, 0xBF⟩
  else if b = 0xE0 then .opens ⟨0, 2, 0xA0, 0xBF⟩
  else if b = 0xED then .opens ⟨0xD, 2, 0x80, 0x9F⟩
  else if 0xE1 ≤ b ∧ b ≤ 0xEF then .opens ⟨b - 0xE0, 2, 0x80, 0xBF⟩
  else if b = 0xF0 then .opens ⟨0, 3, 0x90, 0xBF⟩
  else if 0xF1 ≤ b ∧ b ≤ 0xF3 then .opens ⟨b - 0xF0, 3, 0x80, 0xBF⟩
  else if b = 0xF4 then .opens ⟨4, 3, 0x80, 0x8F⟩
  else .malformed

/-- The automaton between two bytes: the characters read so far, the last one first, with
`none` for a malformed stretch, and the open character. -/
structure State where
  read : List (Option Char) := []
  pending : Option Partial := none

/-- A byte that arrives when no character is open. -/
def State.begin (read : List (Option Char)) (b : Nat) : State :=
  match start b with
  | .whole c => ⟨some c :: read, none⟩
  | .opens p => ⟨read, some p⟩
  | .malformed => ⟨none :: read, none⟩

/-- One byte. -/
def State.step (s : State) (byte : UInt8) : State :=
  let b := byte.toNat
  match s.pending with
  | none => State.begin s.read b
  | some p =>
      if p.low ≤ b ∧ b ≤ p.high then
        let bits := p.bits * 64 + (b - 0x80)
        if p.needed ≤ 1 then ⟨some (Char.ofNat bits) :: s.read, none⟩
        else ⟨s.read, some ⟨bits, p.needed - 1, 0x80, 0xBF⟩⟩
      else State.begin (none :: s.read) b

/-- The end of the bytes: a character that is still open is malformed. -/
def State.finish (s : State) : List (Option Char) :=
  match s.pending with
  | none => s.read.reverse
  | some _ => (none :: s.read).reverse

/-- The characters of a byte string, with `none` for each malformed stretch. -/
def scan (bytes : Bytes) : List (Option Char) :=
  (bytes.foldl State.step {}).finish

/-- The character that stands for what is not text. -/
def replacement : Char := '\uFFFD'

/-- The text in a byte string, each malformed stretch replaced. -/
def decodeLossy (bytes : Bytes) : List Char :=
  (scan bytes).map fun c => c.getD replacement

/-- The text that a byte string is, if all of it is text. -/
def decode? (bytes : Bytes) : Option (List Char) :=
  let scanned := scan bytes
  if scanned.all Option.isSome then some (scanned.filterMap id) else none

end PullDiagnostics.Utf8
