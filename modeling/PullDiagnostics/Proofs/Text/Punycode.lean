import Mathlib.Data.List.Basic
import PullDiagnostics.Text.Punycode

/-!
# What spells a text

The text in ASCII that spells another one is written with its characters in ASCII, hyphens and
digits.

## Main results

* `of_mem_encode`: the characters of a spelling.
-/

namespace PullDiagnostics.Text.Punycode

/-- A threshold is a letter's digit at most. -/
theorem threshold_le (bias k : ℕ) : threshold bias k ≤ 26 := by
  rw [threshold]
  split_ifs <;> omega

/-- A distance is written in digits. -/
theorem of_mem_writeDistance {c : Char} {bias fuel k distance : ℕ}
    (h : c ∈ writeDistance bias fuel k distance) : ∃ value < 36, c = digit value := by
  have hlimit := threshold_le bias k
  induction fuel generalizing k distance with
  | zero => cases h
  | succ fuel ih =>
      rw [writeDistance] at h
      split at h
      next hlast => exact ⟨distance, by omega, List.mem_singleton.mp h⟩
      next =>
        rcases List.mem_cons.mp h with rfl | h
        · refine ⟨_, ?_, rfl⟩
          have hmod := Nat.mod_lt (distance - threshold bias k)
            (show 0 < 36 - threshold bias k by omega)
          omega
        · exact ih h (threshold_le bias (k + 36))

/-- What is put in is written in digits. -/
theorem Spelling.of_mem_putIn {c : Char} {text : List Char} {fuel code : ℕ} {s : Spelling}
    (hs : ∀ d ∈ s.digits, ∃ value < 36, d = digit value) (h : c ∈ putIn text fuel code s) :
    ∃ value < 36, c = digit value := by
  have hpass (code : ℕ) (s : Spelling) (hs : ∀ d ∈ s.digits, ∃ value < 36, d = digit value)
      (e : Char) : ∀ d ∈ (s.pass code e).digits, ∃ value < 36, d = digit value := by
    rw [pass]
    split_ifs
    · exact hs
    · intro d hd
      rcases List.mem_append.mp hd with hd | hd
      · exact hs d hd
      · exact of_mem_writeDistance hd
    · exact hs
  have hfold (code : ℕ) (rest : List Char) : ∀ s : Spelling,
      (∀ d ∈ s.digits, ∃ value < 36, d = digit value) →
        ∀ d ∈ (rest.foldl (pass code) s).digits, ∃ value < 36, d = digit value := by
    induction rest with
    | nil => exact fun s hs => hs
    | cons e rest ih => exact fun s hs => ih _ (hpass code s hs e)
  induction fuel generalizing code s with
  | zero => exact hs c h
  | succ fuel ih =>
      rw [putIn] at h
      split at h
      next => exact hs c h
      next code' _ =>
        refine ih ?_ h
        exact hfold code' text _ hs

/-- **What spells a text.** A spelling is written with the characters of the text in ASCII, hyphens
and digits. -/
theorem of_mem_encode {text : List Char} {c : Char} (h : c ∈ encode text) :
    (c ∈ text ∧ isBasic c = true) ∨ c = '-' ∨ ∃ value < 36, c = digit value := by
  rw [encode, List.mem_append, List.mem_append] at h
  rcases h with (h | h) | h
  · exact .inl (List.mem_filter.mp h)
  · split at h
    next => cases h
    next => exact .inr (.inl (List.mem_singleton.mp h))
  · exact .inr (.inr (Spelling.of_mem_putIn (by simp) h))

end PullDiagnostics.Text.Punycode
