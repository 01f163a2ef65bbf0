import Mathlib.Data.List.Basic
import PullDiagnostics.Proofs.Text.Utf8
import PullDiagnostics.Url.Percent

/-!
# Encoded texts

What is written in percent form is in ASCII and holds none of the characters that its part of a
URL may not hold. So it is written once: writing it in percent form again changes nothing. What a
path is built from is read back by decoding, for there a percent sign is encoded as well.

## Main results

* `clear_encode`, `encodeText_of_clear`: what is encoded is clear, and what is clear is left alone.
* `decode_encode`: decoding undoes encoding with a set that holds the percent sign.
-/

namespace PullDiagnostics

/-! ### ASCII -/

theorem asciiChar_ofNat {c : Char} (h : c.toNat < 0x80) : asciiChar (UInt8.ofNat c.toNat) = c := by
  have hbyte : (UInt8.ofNat c.toNat).toNat = c.toNat := Utf8.toNat_ofNat_of_lt (by omega)
  rw [asciiChar, hbyte, Char.ofNat_toNat]

theorem toNat_asciiChar {b : UInt8} (h : b.toNat < 0x80) : (asciiChar b).toNat = b.toNat := by
  have hvalid : b.toNat.isValidChar := .inl (by omega)
  rw [asciiChar, Char.ofNat, dif_pos hvalid]
  rfl

/-- A character in ASCII is one byte. -/
theorem utf8EncodeChar_of_lt {c : Char} (h : c.toNat < 0x80) :
    String.utf8EncodeChar c = [UInt8.ofNat c.toNat] := by
  have hval : c.val.toNat < 0x80 := h
  simp only [String.utf8EncodeChar]
  rw [if_pos (by omega)]
  rfl

/-- Every character has a byte. -/
theorem utf8EncodeChar_ne_nil (c : Char) : String.utf8EncodeChar c ≠ [] := by
  have hpos : 0 < (String.utf8EncodeChar c).length := by
    rw [String.length_utf8EncodeChar]
    exact c.utf8Size_pos
  exact List.ne_nil_of_length_pos hpos

/-- Text in ASCII is its own bytes. -/
theorem Utf8.encode_of_lt {text : List Char} (h : ∀ c ∈ text, c.toNat < 0x80) :
    Utf8.encode text = text.map fun c => UInt8.ofNat c.toNat := by
  induction text with
  | nil => rfl
  | cons c rest ih =>
      rw [Utf8.encode, List.flatMap_cons, utf8EncodeChar_of_lt (h c (List.mem_cons_self ..)),
        List.map_cons, ← ih fun d hd => h d (List.mem_cons_of_mem c hd)]
      rfl

/-- A digit in upper case is read back. -/
theorem Hex.value?_upperDigit {n : ℕ} (h : n < 16) : Hex.value? (Hex.upperDigit n) = some n := by
  revert n
  decide

/-- A digit is in ASCII. -/
theorem Hex.toNat_upperDigit_lt {n : ℕ} (h : n < 16) : (Hex.upperDigit n).toNat < 0x80 := by
  revert n
  decide

namespace Percent

/-- Whether a text is in ASCII and holds no character of a set. -/
def EncodeSet.Clear (set : EncodeSet) (text : List Char) : Prop :=
  ∀ c ∈ text, c.toNat < 0x80 ∧ set.holds c = false

/-- Whether a set holds none of the characters that encoded bytes are written with. -/
structure EncodeSet.IsOpen (set : EncodeSet) : Prop where
  percent : set.holds '%' = false
  digit : ∀ n < 16, set.holds (Hex.upperDigit n) = false

/-- Encoded bytes hold no controls. -/
theorem isOpen_controls : controls.IsOpen := ⟨by decide, by decide⟩

/-- A set stays open when characters are added to it that no encoded byte is written with. -/
theorem EncodeSet.IsOpen.add {set : EncodeSet} (h : set.IsOpen) {more : List Char}
    (hmore : (more.all fun c => c != '%' && (Hex.value? c).isNone) = true) :
    (set.add more).IsOpen where
  percent := by
    have hnot : '%' ∉ more := fun hmem => absurd (List.all_eq_true.mp hmore _ hmem) (by decide)
    simp [EncodeSet.add, h.percent, hnot]
  digit n hn := by
    have hnot : Hex.upperDigit n ∉ more := fun hmem => by
      have hnone := List.all_eq_true.mp hmore _ hmem
      simp [Hex.value?_upperDigit hn] at hnone
    simp [EncodeSet.add, h.digit n hn, hnot]

/-- Encoded bytes may stand in a path. -/
theorem isOpen_path : path.IsOpen :=
  (isOpen_controls.add (by decide)).add (by decide)

namespace EncodeSet.Clear

variable {set : EncodeSet}

theorem nil : set.Clear [] := by
  intro c hc
  cases hc

theorem append {a b : List Char} (ha : set.Clear a) (hb : set.Clear b) : set.Clear (a ++ b) := by
  intro c hc
  rcases List.mem_append.mp hc with hc | hc
  · exact ha c hc
  · exact hb c hc

/-- A text that is clear of a set is clear of what the set adds to. -/
theorem of_add {more text : List Char} (h : (set.add more).Clear text) : set.Clear text := by
  intro c hc
  obtain ⟨hlt, hholds⟩ := h c hc
  exact ⟨hlt, (Bool.or_eq_false_iff.mp hholds).1⟩

/-- What a set holds does not occur in a text that is clear of it. -/
theorem not_mem {text : List Char} (h : set.Clear text) {c : Char} (hc : set.holds c = true) :
    c ∉ text := by
  intro hmem
  rw [(h c hmem).2] at hc
  cases hc

/-- What a set holds is not in a clear text. -/
theorem ne {text : List Char} (h : set.Clear text) {c d : Char} (hc : c ∈ text)
    (hd : set.holds d = true) : c ≠ d := by
  rintro rfl
  exact h.not_mem hd hc

/-- A set that holds the blank as well as the controls leaves only what can be seen. -/
theorem lt_toNat {more text : List Char} (h : (controls.add more).Clear text)
    (hblank : more.contains ' ' = true) : ∀ c ∈ text, 0x20 < c.toNat := by
  intro c hc
  have hcontrol := (h.of_add c hc).2
  have hne : c ≠ ' ' := h.ne hc (by simp only [EncodeSet.add, hblank, Bool.or_true])
  have hne' : c.toNat ≠ 0x20 := fun heq => hne (Char.toNat_inj.mp heq)
  simp only [controls, Bool.or_eq_false_iff, decide_eq_false_iff_not] at hcontrol
  omega

end EncodeSet.Clear

/-- A text is encoded character by character. -/
theorem encodeText_cons (set : EncodeSet) (c : Char) (rest : List Char) :
    encodeText set (c :: rest) =
      encode set (String.utf8EncodeChar c) ++ encodeText set rest := by
  simp [encodeText, encode, Utf8.encode]

/-- A clear text is written as it is. -/
theorem encodeText_of_clear {set : EncodeSet} {text : List Char} (h : set.Clear text) :
    encodeText set text = text := by
  induction text with
  | nil => rfl
  | cons c rest ih =>
      obtain ⟨hlt, hholds⟩ := h c (List.mem_cons_self ..)
      have hrest := ih fun d hd => h d (List.mem_cons_of_mem c hd)
      have hbyte : (UInt8.ofNat c.toNat).toNat = c.toNat := Utf8.toNat_ofNat_of_lt (by omega)
      have hencodes : set.encodes (UInt8.ofNat c.toNat) = false := by
        have hle : ¬ (0x80 : UInt8) ≤ UInt8.ofNat c.toNat := by
          rw [UInt8.le_iff_toNat_le, hbyte]
          exact Nat.not_le.mpr hlt
        simp [EncodeSet.encodes, hle, asciiChar_ofNat hlt, hholds]
      rw [encodeText_cons, hrest, utf8EncodeChar_of_lt hlt, encode_cons, encode_nil, encodeByte,
        hencodes, if_neg Bool.false_ne_true, asciiChar_ofNat hlt]
      rfl

/-- A byte is escaped, or it is a character in ASCII that stands for itself. -/
theorem encodeByte_eq (set : EncodeSet) (b : UInt8) :
    encodeByte set b = escape b ∨
      b.toNat < 0x80 ∧ set.holds (asciiChar b) = false ∧ encodeByte set b = [asciiChar b] := by
  unfold encodeByte
  split
  next => exact .inl rfl
  next hencodes =>
    simp only [EncodeSet.encodes, Bool.or_eq_true, decide_eq_true_eq, not_or, Bool.not_eq_true,
      UInt8.not_le, UInt8.lt_iff_toNat_lt] at hencodes
    exact .inr ⟨hencodes.1, hencodes.2, rfl⟩

/-- What a byte is escaped with. -/
theorem mem_escape {b : UInt8} {c : Char} (h : c ∈ escape b) :
    c = '%' ∨ ∃ n < 16, c = Hex.upperDigit n := by
  have hhigh : b.toNat / 16 < 16 := by have := b.toNat_lt; omega
  have hlow : b.toNat % 16 < 16 := Nat.mod_lt _ (by decide)
  simp only [escape, List.mem_cons, List.not_mem_nil, or_false] at h
  rcases h with rfl | rfl | rfl
  · exact .inl rfl
  · exact .inr ⟨_, hhigh, rfl⟩
  · exact .inr ⟨_, hlow, rfl⟩

/-- A byte in its place is clear, also of a smaller set than that of its place. -/
theorem clear_encodeByte {set big : EncodeSet} (hset : set.IsOpen)
    (hbig : ∀ c, big.holds c = false → set.holds c = false) (b : UInt8) :
    set.Clear (encodeByte big b) := by
  intro c hc
  rcases encodeByte_eq big b with hescape | ⟨hlt, hholds, hself⟩
  · rw [hescape] at hc
    rcases mem_escape hc with rfl | ⟨n, hn, rfl⟩
    · exact ⟨by decide, hset.percent⟩
    · exact ⟨Hex.toNat_upperDigit_lt hn, hset.digit n hn⟩
  · rw [hself, List.mem_singleton] at hc
    rw [hc]
    exact ⟨by rw [toNat_asciiChar hlt]; exact hlt, hbig _ hholds⟩

/-- **What is encoded is clear.** -/
theorem clear_encode {set big : EncodeSet} (hset : set.IsOpen)
    (hbig : ∀ c, big.holds c = false → set.holds c = false) (bytes : Bytes) :
    set.Clear (encode big bytes) := by
  induction bytes with
  | nil => exact .nil
  | cons b rest ih => exact (clear_encodeByte hset hbig b).append ih

/-- What a set holds does not occur in what is encoded with it, unless encoded bytes are written
with it. -/
theorem not_mem_encode {set : EncodeSet} {c : Char} (hholds : set.holds c = true)
    (hpercent : c ≠ '%') (hdigit : ∀ n < 16, c ≠ Hex.upperDigit n) (bytes : Bytes) :
    c ∉ encode set bytes := by
  intro hmem
  obtain ⟨b, -, hc⟩ := List.mem_flatMap.mp hmem
  rcases encodeByte_eq set b with hescape | ⟨-, hnot, hself⟩
  · rw [hescape] at hc
    rcases mem_escape hc with rfl | ⟨n, hn, rfl⟩
    · exact hpercent rfl
    · exact hdigit n hn rfl
  · rw [hself, List.mem_singleton] at hc
    rw [← hc, hholds] at hnot
    cases hnot

/-- An encoded text is clear. -/
theorem clear_encodeText {set : EncodeSet} (hset : set.IsOpen) (text : List Char) :
    set.Clear (encodeText set text) :=
  clear_encode hset (fun _ h => h) (Utf8.encode text)

/-- No text is lost: every character is written with a character at least. -/
theorem encodeText_ne_nil (set : EncodeSet) {text : List Char} (h : text ≠ []) :
    encodeText set text ≠ [] := by
  obtain ⟨c, rest, rfl⟩ := List.exists_cons_of_ne_nil h
  obtain ⟨b, bytes, hcons⟩ := List.exists_cons_of_ne_nil (utf8EncodeChar_ne_nil c)
  rw [encodeText_cons, hcons, encode_cons]
  rcases encodeByte_eq set b with hescape | ⟨-, -, hself⟩
  · simp [hescape, escape]
  · simp [hself]

/-- A character that no encoded byte is written with stands in an encoded text only where the text
itself has it. -/
theorem mem_of_mem_encodeText {set : EncodeSet} {text : List Char} {c : Char}
    (hmem : c ∈ encodeText set text) (hpercent : c ≠ '%')
    (hdigit : ∀ n < 16, c ≠ Hex.upperDigit n) : c ∈ text := by
  obtain ⟨b, hb, hc⟩ := List.mem_flatMap.mp hmem
  rcases encodeByte_eq set b with hescape | ⟨hlt, -, hself⟩
  · rw [hescape] at hc
    rcases mem_escape hc with rfl | ⟨n, hn, rfl⟩
    · exact absurd rfl hpercent
    · exact absurd rfl (hdigit n hn)
  · rw [hself, List.mem_singleton] at hc
    obtain ⟨d, hd, hdb⟩ := Utf8.exists_mem_of_mem_encode hlt hb
    have hcd : c = d := hc.trans (Char.toNat_inj.mp ((toNat_asciiChar hlt).trans hdb.symm))
    rw [hcd]
    exact hd

/-- A text may be encoded in parts. -/
theorem encodeText_append (set : EncodeSet) (a b : List Char) :
    encodeText set (a ++ b) = encodeText set a ++ encodeText set b := by
  simp [encodeText, encode, Utf8.encode]

/-- An encoded text starts with such a character only where the text itself does. -/
theorem head?_of_head?_encodeText {set : EncodeSet} {text : List Char} {c : Char}
    (h : (encodeText set text).head? = some c) (hpercent : c ≠ '%')
    (hdigit : ∀ n < 16, c ≠ Hex.upperDigit n) : text.head? = some c := by
  cases text with
  | nil => cases h
  | cons d rest =>
      rw [← List.singleton_append, encodeText_append, List.head?_append] at h
      obtain ⟨e, more, hcons⟩ := List.exists_cons_of_ne_nil
        (encodeText_ne_nil set (List.cons_ne_nil d []))
      rw [hcons] at h
      obtain rfl := Option.some.inj h
      have hmem := mem_of_mem_encodeText (hcons ▸ List.mem_cons_self ..) hpercent hdigit
      rw [List.mem_singleton.mp hmem]
      rfl

/-- An encoded text ends in such a character only where the text itself does. -/
theorem getLast?_of_getLast?_encodeText {set : EncodeSet} {text : List Char} {c : Char}
    (h : (encodeText set text).getLast? = some c) (hpercent : c ≠ '%')
    (hdigit : ∀ n < 16, c ≠ Hex.upperDigit n) : text.getLast? = some c := by
  rcases List.eq_nil_or_concat text with rfl | ⟨init, d, rfl⟩
  · cases h
  · rw [List.concat_eq_append] at h ⊢
    rw [encodeText_append, List.getLast?_append] at h
    cases hlast : (encodeText set [d]).getLast? with
    | none =>
        exact absurd (List.getLast?_eq_none_iff.mp hlast)
          (encodeText_ne_nil set (List.cons_ne_nil d []))
    | some e =>
        rw [hlast] at h
        obtain rfl := Option.some.inj h
        have hmem := mem_of_mem_encodeText (List.mem_of_getLast? hlast) hpercent hdigit
        rw [List.mem_singleton.mp hmem, List.getLast?_concat]

/-! ### Decoding -/

/-- A character other than the percent sign stands for its own bytes. -/
theorem decode_cons {c : Char} (h : c ≠ '%') (rest : List Char) :
    decode (c :: rest) = String.utf8EncodeChar c ++ decode rest := by
  rw [decode.eq_3]
  rintro high low more heq
  exact absurd heq h

/-- A text without percent signs stands for its own bytes. -/
theorem decode_of_not_mem {text : List Char} (h : '%' ∉ text) : decode text = Utf8.encode text := by
  induction text with
  | nil => rfl
  | cons c rest ih =>
      rw [List.mem_cons, not_or] at h
      rw [decode_cons (Ne.symm h.1), ih h.2]
      rfl

/-- An escaped byte is decoded to itself. -/
theorem decode_escape (b : UInt8) (rest : List Char) :
    decode (escape b ++ rest) = b :: decode rest := by
  have hhigh : b.toNat / 16 < 16 := by have := b.toNat_lt; omega
  have hlow : b.toNat % 16 < 16 := Nat.mod_lt _ (by decide)
  have hbyte : UInt8.ofNat (16 * (b.toNat / 16) + b.toNat % 16) = b := by
    rw [Nat.div_add_mod, UInt8.ofNat_toNat]
  simp only [escape, List.cons_append, List.nil_append, decode, Hex.value?_upperDigit hhigh,
    Hex.value?_upperDigit hlow, hbyte]

/-- **Decoding undoes encoding** with a set that holds the percent sign. -/
theorem decode_encode {set : EncodeSet} (hset : set.holds '%' = true) (bytes : Bytes) :
    decode (encode set bytes) = bytes := by
  induction bytes with
  | nil => rfl
  | cons b rest ih =>
      rw [encode_cons]
      rcases encodeByte_eq set b with hescape | ⟨hlt, hholds, hself⟩
      · rw [hescape, decode_escape, ih]
      · have hpercent : asciiChar b ≠ '%' := by
          intro heq
          rw [heq, hset] at hholds
          cases hholds
        have hbyte : UInt8.ofNat (asciiChar b).toNat = b := by
          rw [toNat_asciiChar hlt, UInt8.ofNat_toNat]
        rw [hself, List.singleton_append, decode_cons hpercent, ih,
          utf8EncodeChar_of_lt (by rw [toNat_asciiChar hlt]; exact hlt), hbyte]
        rfl

end Percent

end PullDiagnostics
