import Mathlib.Data.List.TakeWhile
import PullDiagnostics.Text.Blank

/-!
# Blanks, letters and numerals

Trimming stops at what is no blank, and a text is cut at the first of the characters that it is
cut at. Letters in lower case stay as they are. A number in decimal is a row of digits, none of
which is a blank; the row leads back to the number.

## Main results

* `splitOnce_append`: a text is cut at the first occurrence of a character.
* `toLower_toLower`: a letter is put in lower case once.
* `toDigits_induction`: a number is a digit, or a number with a digit behind it.
* `numeral_toDigits`: a number is read as it is written.
-/

namespace PullDiagnostics.Text

/-! ### Blanks -/

/-- Nothing is trimmed in front of a character that is not blank. -/
theorem trimStart_cons {c : Char} (h : isBlank c = false) (text : List Char) :
    trimStart (c :: text) = c :: text := by
  simp [trimStart, h]

/-- Nothing is trimmed behind a character that is not blank. -/
theorem trimEnd_concat {c : Char} (h : isBlank c = false) (text : List Char) :
    trimEnd (text ++ [c]) = text ++ [c] := by
  simp [trimEnd, h]

/-- Of a blank text nothing is left. -/
theorem trim_of_isBlankText {text : List Char} (h : isBlankText text = true) : trim text = [] := by
  have hstart : trimStart text = [] := by
    rw [trimStart, List.dropWhile_eq_nil_iff]
    exact List.all_eq_true.mp h
  rw [trim, hstart]
  rfl

/-- A text is split at the first occurrence of a character. -/
theorem splitOnce_append {c : Char} {before : List Char} (h : c ∉ before) (after : List Char) :
    splitOnce c (before ++ c :: after) = some (before, after) := by
  induction before with
  | nil => simp [splitOnce]
  | cons d rest ih =>
      rw [List.mem_cons, not_or] at h
      simp [splitOnce, Ne.symm h.1, ih h.2]

/-- A text without the character is not split. -/
theorem splitOnce_of_not_mem {c : Char} {text : List Char} (h : c ∉ text) :
    splitOnce c text = none := by
  induction text with
  | nil => rfl
  | cons d rest ih =>
      rw [List.mem_cons, not_or] at h
      simp [splitOnce, Ne.symm h.1, ih h.2]

/-- Nothing but the character that a text is cut at is lost. -/
theorem eq_append_of_splitOnce {c : Char} {text before after : List Char}
    (h : splitOnce c text = some (before, after)) : text = before ++ c :: after := by
  induction text generalizing before with
  | nil => cases h
  | cons d rest ih =>
      simp only [splitOnce] at h
      split at h
      next heq =>
        obtain ⟨rfl, rfl⟩ := Prod.mk.inj (Option.some.inj h)
        rw [heq, List.nil_append]
      next =>
        obtain ⟨⟨front, back⟩, hsplit, heq⟩ := Option.map_eq_some_iff.mp h
        obtain ⟨rfl, rfl⟩ := Prod.mk.inj heq
        rw [ih hsplit, List.cons_append]

/-! ### Letters -/

/-- The numbers of capital letters. -/
theorem isUpper_iff {c : Char} : c.isUpper = true ↔ 65 ≤ c.toNat ∧ c.toNat ≤ 90 :=
  decide_eq_true_iff

/-- The numbers of small letters. -/
theorem isLower_iff {c : Char} : c.isLower = true ↔ 97 ≤ c.toNat ∧ c.toNat ≤ 122 :=
  Bool.and_eq_true_iff.trans (and_congr decide_eq_true_iff decide_eq_true_iff)

theorem isAlpha_iff {c : Char} : c.isAlpha = true ↔
    65 ≤ c.toNat ∧ c.toNat ≤ 90 ∨ 97 ≤ c.toNat ∧ c.toNat ≤ 122 :=
  Bool.or_eq_true_iff.trans (or_congr isUpper_iff isLower_iff)

/-- There are twenty-six capital letters. -/
theorem exists_of_isUpper {c : Char} (h : c.isUpper = true) :
    ∃ n < 26, c = Char.ofNat (65 + n) := by
  have hrange := isUpper_iff.mp h
  exact ⟨c.toNat - 65, by omega, by rw [Nat.add_sub_cancel' hrange.1, Char.ofNat_toNat]⟩

/-- A character that is no capital letter has no other lower case. -/
theorem toLower_of_not_isUpper {c : Char} (h : c.isUpper = false) : c.toLower = c := by
  refine dif_neg fun hbetween => ?_
  rw [isUpper_iff.mpr hbetween] at h
  cases h

/-- The lower case of a capital letter is a small one. -/
theorem isLower_toLower {c : Char} (h : c.isUpper = true) : c.toLower.isLower = true := by
  obtain ⟨n, hn, rfl⟩ := exists_of_isUpper h
  clear h
  revert n
  decide

/-- A letter in lower case stays as it is. -/
theorem toLower_toLower (c : Char) : c.toLower.toLower = c.toLower := by
  refine toLower_of_not_isUpper ?_
  cases h : c.isUpper with
  | false => rw [toLower_of_not_isUpper h, h]
  | true =>
      obtain ⟨n, hn, rfl⟩ := exists_of_isUpper h
      clear h
      revert n
      decide

/-! ### Digits -/

section Digits

variable {b : ℕ}

/-- A number is a digit, or a number with a digit behind it. -/
theorem toDigits_induction (hb : 1 < b) {P : ℕ → List Char → Prop}
    (digit : ∀ d < b, P d [d.digitChar])
    (more : ∀ n d, 0 < n → d < b → P n (Nat.toDigits b n) →
      P (b * n + d) (Nat.toDigits b n ++ [d.digitChar])) (n : ℕ) : P n (Nat.toDigits b n) := by
  induction n using Nat.strongRecOn with
  | ind n ih =>
      rcases Nat.lt_or_ge n b with hlt | hge
      · rw [Nat.toDigits_of_lt_base hlt]
        exact digit n hlt
      · have hsmaller : n / b < n := Nat.div_lt_self (by omega) hb
        have hstep := more (n / b) (n % b) (Nat.div_pos hge (by omega))
          (Nat.mod_lt n (by omega)) (ih (n / b) hsmaller)
        rwa [Nat.div_add_mod, ← Nat.toDigits_of_base_le hb hge] at hstep

/-- A number is written with the digits below its base. -/
theorem exists_digitChar_of_mem_toDigits (hb : 1 < b) {n : ℕ} {c : Char}
    (h : c ∈ Nat.toDigits b n) : ∃ d < b, c = d.digitChar := by
  revert h
  induction n using toDigits_induction hb with
  | digit d hd =>
      intro h
      exact ⟨d, hd, List.mem_singleton.mp h⟩
  | more n d _ hd ih =>
      intro h
      rcases List.mem_append.mp h with h | h
      · exact ih h
      · exact ⟨d, hd, List.mem_singleton.mp h⟩

/-- Only the number zero is written with a leading zero. -/
theorem head?_toDigits_ne_zero (hb : 1 < b) (hb16 : b ≤ 16) {n : ℕ} (h : 0 < n) :
    (Nat.toDigits b n).head? ≠ some '0' := by
  revert h
  induction n using toDigits_induction hb with
  | digit d hd =>
      intro hpos heq
      have hdigit : ∀ d < 16, 0 < d → d.digitChar ≠ '0' := by decide
      exact hdigit d (by omega) hpos (by simpa using heq)
  | more n d hn _ ih =>
      intro _
      obtain ⟨c, rest, hcons⟩ := List.exists_cons_of_ne_nil (Nat.toDigits_ne_nil (n := n) (b := b))
      rw [hcons] at ih ⊢
      exact ih hn

end Digits

/-- A decimal number is written with decimal digits. -/
theorem isDigit_of_mem_toDigits {n : ℕ} {c : Char} (h : c ∈ Nat.toDigits 10 n) :
    isDigit c = true := by
  have hdigit : c.isDigit = true := Nat.isDigit_of_mem_toDigits (by decide) (by decide) h
  simpa [isDigit, Char.isDigit, Char.le_def] using hdigit

theorem isBlank_of_isDigit {c : Char} (h : isDigit c = true) : isBlank c = false := by
  simp only [isDigit, Bool.and_eq_true, decide_eq_true_eq, Char.le_def, UInt32.le_iff_toNat_le] at h
  have hlow : 48 ≤ c.toNat := h.1
  have hhigh : c.toNat ≤ 57 := h.2
  simp only [isBlank, Bool.or_eq_false_iff, Bool.and_eq_false_iff, decide_eq_false_iff_not,
    beq_eq_false_iff_ne]
  omega

/-- A number is read as it is written. -/
theorem numeral_toDigits (n : ℕ) : numeral (Nat.toDigits 10 n) = n :=
  Nat.ofDigitChars_toDigits (b := 10) (by decide) (by decide)

end PullDiagnostics.Text
