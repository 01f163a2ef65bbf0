import Mathlib.Tactic.IntervalCases
import PullDiagnostics.Text.Utf8

/-!
# Text and its bytes

The automaton that reads bytes takes the bytes of one character to that character: the first of
them says how many follow, each of the others lies in the range in which it has to, and together
they hold the bits of the number that the character has. So text is read back from its bytes, with
nothing replaced.

## Main results

* `foldl_utf8EncodeChar`: the bytes of one character.
* `decode?_encode`, `decodeLossy_encode`: text is read back.
-/

namespace PullDiagnostics.Utf8

/-! ### First bytes -/

/-- A character below 128 is one byte. -/
theorem start_one {b : ℕ} (hb : b < 0x80) : start b = .whole (Char.ofNat b) :=
  if_pos hb

/-- The bytes that open a sequence of two. -/
theorem start_two {b : ℕ} (hlow : 0xC2 ≤ b) (hhigh : b ≤ 0xDF) :
    start b = .opens ⟨b - 0xC0, 1, 0x80, 0xBF⟩ := by
  rw [start, if_neg (by omega), if_pos ⟨hlow, hhigh⟩]

/-- The bytes that open a sequence of three. Two of them narrow the second byte: one against
sequences that are too long, one against surrogates. -/
theorem start_three {b : ℕ} (hlow : 0xE0 ≤ b) (hhigh : b ≤ 0xEF) :
    start b = .opens ⟨b - 0xE0, 2, if b = 0xE0 then 0xA0 else 0x80,
      if b = 0xED then 0x9F else 0xBF⟩ := by
  interval_cases b <;> rfl

/-- The bytes that open a sequence of four. Two of them narrow the second byte: one against
sequences that are too long, one against numbers beyond the last character. -/
theorem start_four {b : ℕ} (hlow : 0xF0 ≤ b) (hhigh : b ≤ 0xF4) :
    start b = .opens ⟨b - 0xF0, 3, if b = 0xF0 then 0x90 else 0x80,
      if b = 0xF4 then 0x8F else 0xBF⟩ := by
  interval_cases b <;> rfl

/-! ### Steps -/

theorem toNat_ofNat_of_lt {b : ℕ} (hb : b < 0x100) : (UInt8.ofNat b).toNat = b := by
  rw [UInt8.toNat_ofNat']
  omega

/-- A byte below 128 is read as a character. -/
theorem step_whole {read : List (Option Char)} {b : ℕ} (hb : b < 0x80) :
    State.step ⟨read, none⟩ (UInt8.ofNat b) = ⟨some (Char.ofNat b) :: read, none⟩ := by
  simp only [State.step, State.begin, toNat_ofNat_of_lt (show b < 0x100 by omega), start_one hb]

/-- A byte that opens a sequence is kept until the sequence is complete. -/
theorem step_opens {read : List (Option Char)} {b : ℕ} {p : Partial} (hb : b < 0x100)
    (h : start b = .opens p) : State.step ⟨read, none⟩ (UInt8.ofNat b) = ⟨read, some p⟩ := by
  simp only [State.step, State.begin, toNat_ofNat_of_lt hb, h]

/-- A byte that continues a character and does not end it. -/
theorem step_more {read : List (Option Char)} {b bits needed low high : ℕ} (hb : b < 0x100)
    (hlow : low ≤ b) (hhigh : b ≤ high) :
    State.step ⟨read, some ⟨bits, needed + 2, low, high⟩⟩ (UInt8.ofNat b) =
      ⟨read, some ⟨bits * 64 + (b - 0x80), needed + 1, 0x80, 0xBF⟩⟩ := by
  simp [State.step, toNat_ofNat_of_lt hb, hlow, hhigh]

/-- A byte that ends a character. -/
theorem step_last {read : List (Option Char)} {b bits low high : ℕ} (hb : b < 0x100)
    (hlow : low ≤ b) (hhigh : b ≤ high) :
    State.step ⟨read, some ⟨bits, 1, low, high⟩⟩ (UInt8.ofNat b) =
      ⟨some (Char.ofNat (bits * 64 + (b - 0x80))) :: read, none⟩ := by
  simp [State.step, toNat_ofNat_of_lt hb, hlow, hhigh]

/-! ### Characters -/

/-- **One character.** -/
theorem foldl_utf8EncodeChar (read : List (Option Char)) (c : Char) :
    (String.utf8EncodeChar c).foldl State.step ⟨read, none⟩ = ⟨some c :: read, none⟩ := by
  have hvalid : c.val.toNat < 0xD800 ∨ 0xDFFF < c.val.toNat ∧ c.val.toNat < 0x110000 := c.valid
  have hchar : Char.ofNat c.val.toNat = c := Char.ofNat_toNat c
  generalize hn : c.val.toNat = n at hvalid hchar
  simp only [String.utf8EncodeChar, hn]
  split
  next h =>
    simp only [List.foldl_cons, List.foldl_nil]
    rw [step_whole (by omega), hchar]
  next h₁ =>
    split
    next h₂ =>
      simp only [List.foldl_cons, List.foldl_nil]
      rw [step_opens (by omega) (start_two (by omega) (by omega)),
        step_last (by omega) (by omega) (by omega),
        show (n / 64 % 32 + 192 - 192) * 64 + (n % 64 + 128 - 128) = n by omega, hchar]
    next h₂ =>
      split
      next h₃ =>
        simp only [List.foldl_cons, List.foldl_nil]
        rw [step_opens (by omega) (start_three (by omega) (by omega)),
          step_more (by omega) (by split <;> omega) (by split <;> omega),
          step_last (by omega) (by omega) (by omega),
          show ((n / 4096 % 16 + 224 - 224) * 64 + (n / 64 % 64 + 128 - 128)) * 64 +
            (n % 64 + 128 - 128) = n by omega, hchar]
      next h₃ =>
        simp only [List.foldl_cons, List.foldl_nil]
        rw [step_opens (by omega) (start_four (by omega) (by omega)),
          step_more (by omega) (by split <;> omega) (by split <;> omega),
          step_more (by omega) (by omega) (by omega),
          step_last (by omega) (by omega) (by omega),
          show (((n / 262144 % 8 + 240 - 240) * 64 + (n / 4096 % 64 + 128 - 128)) * 64 +
            (n / 64 % 64 + 128 - 128)) * 64 + (n % 64 + 128 - 128) = n by omega, hchar]

/-! ### Texts -/

/-- Encoded text is read character by character, and nothing is left open. -/
theorem foldl_encode (read : List (Option Char)) (text : List Char) :
    (encode text).foldl State.step ⟨read, none⟩ = ⟨(text.map some).reverse ++ read, none⟩ := by
  induction text generalizing read with
  | nil => rfl
  | cons c rest ih =>
      rw [encode, List.flatMap_cons, List.foldl_append, foldl_utf8EncodeChar]
      exact (ih _).trans (by simp)

/-- Encoded text is read back, without errors. -/
@[simp] theorem scan_encode (text : List Char) : scan (encode text) = text.map some := by
  rw [scan, foldl_encode]
  simp [State.finish]

/-- **Text is read back** from its bytes. -/
@[simp] theorem decode?_encode (text : List Char) : decode? (encode text) = some text := by
  simp [decode?]

/-- Nothing is replaced in text. -/
@[simp] theorem decodeLossy_encode (text : List Char) : decodeLossy (encode text) = text := by
  simp [decodeLossy]

end PullDiagnostics.Utf8
