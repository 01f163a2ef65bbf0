import Mathlib.Algebra.Group.Nat.Defs
import Mathlib.Data.List.Induction
import Mathlib.Data.List.TakeWhile
import Mathlib.Data.Option.Basic
import PullDiagnostics.Proofs.Text.Blank
import PullDiagnostics.Url.Host

/-!
# Addresses that are read again

The address of a host is a number, or a row of numbers, and its text is the shortest in which they
can be written. So an address that was read has a text of its own, which leads back to it: four
bytes in decimal, or eight pieces in hexadecimal with two colons for the first of the longest rows
of zeros. That the row is the longest does not matter for reading; that it is one does.

## Main results

* `Host.parseShort_write`: an address of four bytes is read as it is written.
* `Host.parseLong_longText`: an address of eight pieces is read as it is written.
* `Host.isAddress_of_parseShort`, `Host.isAddress_of_parseLong`: what is read is an address.
-/

namespace PullDiagnostics

/-- A digit below 16 is read back. -/
theorem Hex.value?_digitChar {d : ℕ} (h : d < 16) : Hex.value? d.digitChar = some d := by
  revert d
  decide

namespace Host

open Text (toDigits_induction exists_digitChar_of_mem_toDigits head?_toDigits_ne_zero)

/-- An address fits the place that it is written in. -/
def IsAddress : Host → Prop
  | .name _ => False
  | .short n => n < 2 ^ 32
  | .long groups => groups.length = 8 ∧ ∀ g ∈ groups, g < 2 ^ 16

/-! ### Addresses of four bytes -/

/-- A number written in a base is read back in it. -/
theorem numberInBase?_toDigits {b : ℕ} (hb : 1 < b) (hb16 : b ≤ 16) (n : ℕ) :
    numberInBase? b (Nat.toDigits b n) = some n := by
  induction n using toDigits_induction hb with
  | digit d hd => simp [numberInBase?, Hex.value?_digitChar (Nat.lt_of_lt_of_le hd hb16), hd]
  | more n d _ hd ih =>
      unfold numberInBase? at ih ⊢
      rw [List.foldlM_append, ih]
      simp [Hex.value?_digitChar (Nat.lt_of_lt_of_le hd hb16), hd]

/-- A number in decimal is a label that stands for it. -/
theorem labelNumber?_toDigits (n : ℕ) : labelNumber? (Nat.toDigits 10 n) = some n := by
  rcases Nat.eq_zero_or_pos n with rfl | hpos
  · rfl
  · have hhead := head?_toDigits_ne_zero (b := 10) (by decide) (by decide) hpos
    have hnumber := numberInBase?_toDigits (b := 10) (by decide) (by decide) n
    unfold labelNumber?
    split
    next hnil => exact absurd hnil Nat.toDigits_ne_nil
    next hzero => rw [hzero] at hhead; exact absurd rfl hhead
    next hzero => rw [hzero] at hhead; exact absurd rfl hhead
    next hzero => rw [hzero] at hhead; exact absurd rfl hhead
    next hzero => rw [hzero] at hhead; exact absurd rfl hhead
    next => exact hnumber

/-- The four bytes of an address. -/
def octets (n : ℕ) : List ℕ :=
  [n >>> 24 % 256, n >>> 16 % 256, n >>> 8 % 256, n % 256]

/-- The four bytes of an address make it up again. -/
theorem shortAddress?_octets {n : ℕ} (h : n < 2 ^ 32) : shortAddress? (octets n) = some n := by
  have hmod (k : ℕ) : k % 256 < 256 := Nat.mod_lt k (by decide)
  have hsum : (256 * (256 * (n >>> 24 % 256) + n >>> 16 % 256) + n >>> 8 % 256) * 256 + n % 256 =
      n := by
    simp only [Nat.shiftRight_eq_div_pow]
    omega
  simp [shortAddress?, octets, Nat.shiftLeft_eq, hmod, hsum]

/-- The text of an address of four bytes. -/
theorem write_short (n : ℕ) :
    (Host.short n).write = List.intercalate ['.'] ((octets n).map (Nat.toDigits 10)) := rfl

/-- What stands in a text with characters between its pieces. -/
theorem mem_of_mem_intercalate {mark c : Char} {pieces : List (List Char)}
    (h : c ∈ List.intercalate [mark] pieces) : c = mark ∨ ∃ piece ∈ pieces, c ∈ piece := by
  induction pieces with
  | nil => cases h
  | cons first others ih =>
      cases others with
      | nil => exact .inr ⟨first, List.mem_cons_self .., by simpa using h⟩
      | cons next others =>
          rw [List.intercalate_cons_cons, List.mem_append, List.mem_append, List.mem_singleton] at h
          rcases h with (h | h) | h
          · exact .inr ⟨first, List.mem_cons_self .., h⟩
          · exact .inl h
          · exact (ih h).imp id fun ⟨piece, hpiece, hc⟩ =>
              ⟨piece, List.mem_cons_of_mem first hpiece, hc⟩

/-- An address of four bytes is written with dots and decimal digits. -/
theorem mem_write_short {n : ℕ} {c : Char} (h : c ∈ (Host.short n).write) :
    c = '.' ∨ ∃ d < 10, c = d.digitChar := by
  rcases mem_of_mem_intercalate h with hdot | ⟨label, hlabel, hc⟩
  · exact .inl hdot
  · obtain ⟨k, -, rfl⟩ := List.mem_map.mp hlabel
    exact .inr (exists_digitChar_of_mem_toDigits (by decide) hc)

/-- Between the dots stand the four bytes. -/
theorem splitOn_write_short (n : ℕ) :
    (Host.short n).write.splitOn '.' = (octets n).map (Nat.toDigits 10) := by
  rw [write_short]
  refine List.splitOn_intercalate '.' (fun label hlabel hdot => ?_) (by simp [octets])
  obtain ⟨k, -, rfl⟩ := List.mem_map.mp hlabel
  obtain ⟨d, hd, heq⟩ := exists_digitChar_of_mem_toDigits (by decide) hdot
  have hno : ∀ d < 10, '.' ≠ Nat.digitChar d := by decide
  exact hno d hd heq

/-- No byte is written as an empty label, so the labels are the four bytes. -/
theorem labels_write_short (n : ℕ) :
    labels (Host.short n).write = (octets n).map (Nat.toDigits 10) := by
  rw [labels, splitOn_write_short]
  simp [octets, Nat.toDigits_ne_nil]

/-- An address of four bytes is taken for one. -/
theorem endsInNumber_write_short (n : ℕ) : endsInNumber (Host.short n).write = true := by
  have hdigit : ∀ d < 10, Text.isDigit (Nat.digitChar d) = true := by decide
  have hall : (Nat.toDigits 10 (n % 256)).all Text.isDigit = true := by
    rw [List.all_eq_true]
    intro c hc
    obtain ⟨d, hd, rfl⟩ := exists_digitChar_of_mem_toDigits (by decide) hc
    exact hdigit d hd
  have hlast : (labels (Host.short n).write).getLast? = some (Nat.toDigits 10 (n % 256)) := by
    rw [labels_write_short]
    rfl
  unfold endsInNumber
  rw [hlast]
  split
  next heq => cases heq
  next heq => exact absurd (Option.some.inj heq) Nat.toDigits_ne_nil
  next last _ heq =>
    obtain rfl : Nat.toDigits 10 (n % 256) = last := Option.some.inj heq
    rw [hall, Bool.true_or]

/-- **Four bytes.** An address of four bytes is read as it is written. -/
theorem parseShort_write {n : ℕ} (h : n < 2 ^ 32) :
    parseShort (Host.short n).write = .ok (.short n) := by
  have hnumbers : ((octets n).map (Nat.toDigits 10)).mapM labelNumber? = some (octets n) := by
    simp [octets, labelNumber?_toDigits]
  rw [parseShort, labels_write_short, hnumbers, Option.bind_some, shortAddress?_octets h]

/-- Digits below a base make a number that they suffice for. -/
theorem foldl_lt_of_forall_lt {b : ℕ} {digits : List ℕ} (h : ∀ d ∈ digits, d < b) :
    digits.foldl (fun n d => b * n + d) 0 < b ^ digits.length := by
  induction digits using List.reverseRecOn with
  | nil => simp
  | append_singleton digits d ih =>
      have hd : d < b := h d (by simp)
      have hdigits := ih fun e he => h e (List.mem_append_left [d] he)
      rw [List.foldl_append, List.foldl_cons, List.foldl_nil, List.length_append,
        List.length_singleton, Nat.pow_succ]
      calc b * digits.foldl (fun n d => b * n + d) 0 + d
          < b * digits.foldl (fun n d => b * n + d) 0 + b := by omega
        _ = b * (digits.foldl (fun n d => b * n + d) 0 + 1) := (Nat.mul_succ ..).symm
        _ ≤ b * b ^ digits.length := Nat.mul_le_mul_left b hdigits
        _ = b ^ digits.length * b := Nat.mul_comm ..

theorem lt_of_shortAddress? {numbers : List ℕ} {n : ℕ} (h : shortAddress? numbers = some n) :
    n < 2 ^ 32 := by
  unfold shortAddress? at h
  split at h
  next => cases h
  next last hlast =>
    simp only [Option.ite_none_right_eq_some, Bool.and_eq_true, decide_eq_true_eq,
      List.all_eq_true, Nat.shiftLeft_eq, Nat.one_mul, Option.some.injEq] at h
    obtain ⟨⟨⟨hlength, hlt⟩, hleading⟩, rfl⟩ := h
    have hbytes := foldl_lt_of_forall_lt hleading
    have hthree : numbers.dropLast.length ≤ 3 := by
      rw [List.length_dropLast]
      omega
    -- The bytes before the last number and those that it fills are four together.
    generalize numbers.dropLast.foldl (fun n b => 256 * n + b) 0 = value at hbytes ⊢
    generalize numbers.dropLast.length = k at hlt hbytes hthree ⊢
    have hk : k = 0 ∨ k = 1 ∨ k = 2 ∨ k = 3 := by omega
    rcases hk with rfl | rfl | rfl | rfl <;> omega

/-- What is read as an address of four bytes is one. -/
theorem isAddress_of_parseShort {name : List Char} {h : Host} (hparse : parseShort name = .ok h) :
    ∃ n, h = .short n ∧ (Host.short n).IsAddress := by
  unfold parseShort at hparse
  split at hparse
  next n hn =>
    obtain ⟨numbers, -, hnumbers⟩ := Option.bind_eq_some_iff.mp hn
    exact ⟨n, (Except.ok.inj hparse).symm, lt_of_shortAddress? hnumbers⟩
  next => cases hparse

/-! ### Addresses of eight pieces -/

/-- The text of an address of eight pieces without its brackets. -/
def longText (groups : List ℕ) : List Char :=
  match longestZeros groups with
  | none => writeGroups groups
  | some (first, n) =>
      writeGroups (groups.take first) ++ ':' :: ':' :: writeGroups (groups.drop (first + n))

/-- An address of eight pieces stands between brackets. -/
theorem write_long (groups : List ℕ) :
    (Host.long groups).write = '[' :: (longText groups ++ [']']) := by
  cases h : longestZeros groups with
  | none => simp [write, longText, h]
  | some zeros => simp [write, longText, h]

/-- A piece is written with hexadecimal digits. -/
theorem isSome_value?_of_mem_ofNat {g : ℕ} {c : Char} (h : c ∈ Hex.ofNat g) :
    (Hex.value? c).isSome = true := by
  obtain ⟨d, hd, rfl⟩ := exists_digitChar_of_mem_toDigits (by decide) h
  rw [Hex.value?_digitChar hd]
  rfl

/-- The digits of a piece add up to it. -/
theorem foldl_ofNat (g : ℕ) :
    (Hex.ofNat g).foldl (fun n c => 16 * n + (Hex.value? c).getD 0) 0 = g := by
  unfold Hex.ofNat
  induction g using toDigits_induction (b := 16) (by decide) with
  | digit d hd => simp [Hex.value?_digitChar hd]
  | more n d _ hd ih => simp [ih, Hex.value?_digitChar hd]

/-- A piece of sixteen bits has four digits at most. -/
theorem length_ofNat_le {g : ℕ} (h : g < 2 ^ 16) : (Hex.ofNat g).length ≤ 4 :=
  (Nat.length_toDigits_le_iff (by decide) (by decide)).mpr (by simpa using h)

/-- The digits of a piece end where no digit follows. -/
theorem takeWhile_ofNat {g : ℕ} (h : g < 2 ^ 16) {rest : List Char}
    (hrest : rest = [] ∨ ∃ more, rest = ':' :: more) :
    ((Hex.ofNat g ++ rest).take 4).takeWhile (fun c => (Hex.value? c).isSome) = Hex.ofNat g := by
  rw [List.take_append, List.take_of_length_le (length_ofNat_le h),
    List.takeWhile_append_of_pos fun c hc => isSome_value?_of_mem_ofNat hc]
  have hnone : (rest.take (4 - (Hex.ofNat g).length)).takeWhile (fun c => (Hex.value? c).isSome) =
      [] := by
    rcases hrest with rfl | ⟨more, rfl⟩
    · simp
    · cases 4 - (Hex.ofNat g).length with
      | zero => simp
      | succ k =>
          rw [List.take_succ_cons, List.takeWhile_cons, if_neg (by decide)]
  rw [hnone, List.append_nil]

/-- A piece starts with a digit and not with a colon. -/
theorem exists_ofNat_eq_cons (g : ℕ) : ∃ c digits, c ≠ ':' ∧ Hex.ofNat g = c :: digits := by
  obtain ⟨c, digits, hcons⟩ : ∃ c digits, Hex.ofNat g = c :: digits :=
    List.exists_cons_of_ne_nil Nat.toDigits_ne_nil
  refine ⟨c, digits, ?_, hcons⟩
  rintro rfl
  exact absurd (isSome_value?_of_mem_ofNat (hcons ▸ List.mem_cons_self ..)) (by decide)

/-- A piece with which the text ends. -/
theorem readGroups_ofNat {g : ℕ} (h : g < 2 ^ 16) {state : Groups} (hroom : state.read.length < 8)
    (fuel : ℕ) :
    readGroups (fuel + 1) state (Hex.ofNat g) = some { state with read := state.read ++ [g] } := by
  obtain ⟨c, digits, hc, hcons⟩ := exists_ofNat_eq_cons g
  have htake := takeWhile_ofNat h (.inl rfl)
  have hfold := foldl_ofNat g
  rw [List.append_nil] at htake
  rw [hcons] at htake hfold ⊢
  rw [readGroups.eq_4 _ _ _ (by simp) fun more heq => hc (List.cons.inj heq).1,
    if_neg (Nat.ne_of_lt hroom)]
  simp only [htake, hfold, List.drop_length]

/-- A piece with a colon behind it. -/
theorem readGroups_ofNat_colon {g : ℕ} (h : g < 2 ^ 16) {state : Groups}
    (hroom : state.read.length < 8) (fuel : ℕ) {rest : List Char} (hrest : rest ≠ []) :
    readGroups (fuel + 1) state (Hex.ofNat g ++ ':' :: rest) =
      readGroups fuel { state with read := state.read ++ [g] } rest := by
  obtain ⟨c, digits, hc, hcons⟩ := exists_ofNat_eq_cons g
  have htake := takeWhile_ofNat h (.inr ⟨rest, rfl⟩)
  have hfold := foldl_ofNat g
  rw [hcons] at htake hfold ⊢
  rw [List.cons_append] at htake ⊢
  rw [readGroups.eq_4 _ _ _ (by simp) fun more heq => hc (List.cons.inj heq).1,
    if_neg (Nat.ne_of_lt hroom)]
  simp only [htake, hfold]
  rw [← List.cons_append, List.drop_left]
  simp [hrest]

/-- A colon follows every piece but the last. -/
theorem writeGroups_cons_cons (g next : ℕ) (more : List ℕ) :
    writeGroups (g :: next :: more) = Hex.ofNat g ++ ':' :: writeGroups (next :: more) := by
  simp [writeGroups, List.intercalate_cons_cons]

/-- Pieces start with no colon. -/
theorem exists_writeGroups_eq_cons (g : ℕ) (more : List ℕ) :
    ∃ c rest, c ≠ ':' ∧ writeGroups (g :: more) = c :: rest := by
  obtain ⟨c, digits, hc, hcons⟩ := exists_ofNat_eq_cons g
  cases more with
  | nil => exact ⟨c, digits, hc, by simp [writeGroups, hcons]⟩
  | cons next more =>
      exact ⟨c, digits ++ ':' :: writeGroups (next :: more), hc,
        by rw [writeGroups_cons_cons, hcons, List.cons_append]⟩

/-- **Pieces to the end.** They are read in order. -/
theorem readGroups_writeGroups (state : Groups) {g : ℕ} {more : List ℕ}
    (h : ∀ k ∈ g :: more, k < 2 ^ 16) (hroom : state.read.length + (g :: more).length ≤ 8)
    (fuel : ℕ) :
    readGroups ((g :: more).length + fuel) state (writeGroups (g :: more)) =
      some { state with read := state.read ++ g :: more } := by
  have hg : g < 2 ^ 16 := h g (List.mem_cons_self ..)
  induction more generalizing g state with
  | nil =>
      rw [List.length_singleton] at hroom ⊢
      rw [Nat.add_comm, writeGroups, List.map_singleton, List.intercalate_singleton,
        readGroups_ofNat hg hroom]
  | cons next more ih =>
      rw [List.length_cons] at hroom ⊢
      obtain ⟨c, rest, -, hrest⟩ := exists_writeGroups_eq_cons next more
      rw [writeGroups_cons_cons, Nat.succ_add,
        readGroups_ofNat_colon hg (by omega) _ (by simp [hrest]),
        ih _ (fun k hk => h k (List.mem_cons_of_mem g hk)) (by simp at hroom ⊢; omega)
          (h next (by simp))]
      simp

/-- **Pieces before the missing zeros.** They are read in order, and a colon is left. -/
theorem readGroups_writeGroups_colons (state : Groups) {g : ℕ} {more : List ℕ}
    (h : ∀ k ∈ g :: more, k < 2 ^ 16) (hroom : state.read.length + (g :: more).length ≤ 8)
    (fuel : ℕ) (rest : List Char) :
    readGroups ((g :: more).length + fuel) state (writeGroups (g :: more) ++ ':' :: ':' :: rest) =
      readGroups fuel { state with read := state.read ++ g :: more } (':' :: rest) := by
  have hg : g < 2 ^ 16 := h g (List.mem_cons_self ..)
  induction more generalizing g state with
  | nil =>
      rw [List.length_singleton] at hroom ⊢
      rw [Nat.add_comm, writeGroups, List.map_singleton, List.intercalate_singleton,
        readGroups_ofNat_colon hg hroom _ (by simp)]
  | cons next more ih =>
      rw [List.length_cons] at hroom ⊢
      rw [writeGroups_cons_cons, List.append_assoc, List.cons_append, Nat.succ_add,
        readGroups_ofNat_colon hg (by omega) _ (by simp),
        ih _ (fun k hk => h k (List.mem_cons_of_mem g hk)) (by simp at hroom ⊢; omega)
          (h next (by simp))]
      simp

/-- **Pieces after the missing zeros.** They are read in order; there may be none. -/
theorem readGroups_after (before : List ℕ) {after : List ℕ} (h : ∀ k ∈ after, k < 2 ^ 16)
    (hroom : before.length + 1 + after.length ≤ 8) (fuel : ℕ) :
    readGroups (after.length + (fuel + 1)) ⟨before ++ [0], some (before.length + 1)⟩
      (writeGroups after) = some ⟨before ++ 0 :: after, some (before.length + 1)⟩ := by
  cases after with
  | nil => simp [writeGroups, readGroups]
  | cons g more =>
      rw [readGroups_writeGroups _ h (by simpa using hroom)]
      simp

/-- The second of two colons opens the gap. -/
theorem readGroups_colon (before : List ℕ) {after : List ℕ} (h : ∀ k ∈ after, k < 2 ^ 16)
    (hroom : before.length + 1 + after.length ≤ 8) (fuel : ℕ) :
    readGroups (after.length + (fuel + 1) + 1) ⟨before, none⟩ (':' :: writeGroups after) =
      some ⟨before ++ 0 :: after, some (before.length + 1)⟩ := by
  have hnot : ¬ before.length = 8 := by omega
  rw [readGroups.eq_3, if_neg (by simp [hnot]), readGroups_after before h hroom]

/-- A place in an address and how many zeros follow it, at least two. -/
structure IsZeroRun (groups : List ℕ) (run : ℕ × ℕ) : Prop where
  two_le : 2 ≤ run.2
  length_eq : run.2 = ((groups.drop run.1).takeWhile (· == 0)).length

/-- The longest run is one of zeros. -/
theorem isZeroRun_of_longestZeros {groups : List ℕ} {run : ℕ × ℕ}
    (h : longestZeros groups = some run) : IsZeroRun groups run := by
  have hall : ∀ run ∈ longestZeros groups, IsZeroRun groups run := by
    refine List.foldlRecOn (motive := fun best => ∀ run ∈ best, IsZeroRun groups run) _ _
      (by simp) fun best hbest next hnext run hrun => ?_
    have hlength : next.2 = ((groups.drop next.1).takeWhile (· == 0)).length := by
      obtain ⟨i, -, rfl⟩ := List.mem_map.mp hnext
      rfl
    cases best with
    | none =>
        simp only [Option.mem_def, Option.ite_none_right_eq_some, Option.some.injEq] at hrun
        obtain ⟨htwo, rfl⟩ := hrun
        exact ⟨htwo, hlength⟩
    | some longest =>
        have hlongest := hbest longest rfl
        simp only [Option.mem_def] at hrun
        split at hrun
        next hlonger =>
          obtain rfl : next = run := Option.some.inj hrun
          exact ⟨Nat.le_trans hlongest.two_le (Nat.le_of_lt hlonger), hlength⟩
        next =>
          obtain rfl : longest = run := Option.some.inj hrun
          exact hlongest
  exact hall run h

/-- Nothing is lost with the zeros that two colons stand for. -/
theorem IsZeroRun.eq {groups : List ℕ} {first n : ℕ} (h : IsZeroRun groups (first, n)) :
    groups = groups.take first ++ List.replicate n 0 ++ groups.drop (first + n) := by
  have hzeros : (groups.drop first).take n = List.replicate n 0 := by
    have htake := List.prefix_iff_eq_take.mp
      (List.takeWhile_prefix (l := groups.drop first) (· == 0))
    rw [← h.length_eq] at htake
    rw [← htake, List.eq_replicate_iff]
    exact ⟨h.length_eq.symm, fun k hk => by simpa using List.mem_takeWhile_imp hk⟩
  rw [← hzeros, List.append_assoc, ← List.drop_drop, List.take_append_drop, List.take_append_drop]

/-- The address that pieces make, if the missing zeros fill it up. -/
def Groups.toHost (state : Groups) : Except UrlError Host :=
  match state.gap with
  | none => if state.read.length = 8 then .ok (.long state.read) else .error .invalidLongAddress
  | some gap =>
      .ok (.long (state.read.take gap ++ List.replicate (8 - state.read.length) 0 ++
        state.read.drop gap))

/-- An address that starts with two colons is read from the second one on, with a gap in front.
-/
theorem parseLong_colons {rest : List Char} {state : Groups}
    (h : readGroups (rest.length + 3) ⟨[0], some 1⟩ rest = some state) :
    parseLong (':' :: ':' :: rest) = state.toHost := by
  simp only [parseLong, Option.bind_some, List.length_cons, h]
  obtain ⟨read, gap⟩ := state
  cases gap <;> rfl

/-- An address that starts with a piece is read from there. -/
theorem parseLong_of_ne_colon {c : Char} (hc : c ≠ ':') {rest : List Char} (hrest : rest ≠ [])
    {state : Groups} (h : readGroups (rest.length + 2) {} (c :: rest) = some state) :
    parseLong (c :: rest) = state.toHost := by
  unfold parseLong
  split
  next heq => exact absurd (List.cons.inj heq).1 hc
  next heq => exact absurd (List.cons.inj heq).1 hc
  next heq => cases heq
  next heq => exact absurd (List.cons.inj heq).2 hrest
  next =>
    simp only [Option.bind_some, List.length_cons, h]
    obtain ⟨read, gap⟩ := state
    cases gap <;> rfl

/-- Each piece takes a character at least, so the text is fuel enough. -/
theorem length_le_length_writeGroups (groups : List ℕ) :
    groups.length ≤ (writeGroups groups).length := by
  induction groups with
  | nil => simp
  | cons g more ih =>
      have hpos : 1 ≤ (Hex.ofNat g).length := Nat.length_toDigits_pos
      cases more with
      | nil => simpa [writeGroups] using hpos
      | cons next more =>
          rw [writeGroups_cons_cons, List.length_append, List.length_cons,
            List.length_cons (a := ':')]
          omega

/-- Zeros that are missing are filled in where they were. -/
theorem toHost_gap {before after : List ℕ} {n : ℕ} (hn : 0 < n)
    (hlength : before.length + n + after.length = 8) :
    Groups.toHost ⟨before ++ 0 :: after, some (before.length + 1)⟩ =
      .ok (.long (before ++ List.replicate n 0 ++ after)) := by
  have hmissing : 8 - (before ++ 0 :: after).length = n - 1 := by
    rw [List.length_append, List.length_cons]
    omega
  have hzeros : 0 :: List.replicate (n - 1) 0 = List.replicate n 0 := by
    rw [← List.replicate_succ, Nat.sub_add_cancel hn]
  have htake : (before ++ 0 :: after).take (before.length + 1) = before ++ [0] := by
    rw [List.take_length_add_append, List.take_succ_cons, List.take_zero]
  have hdrop : (before ++ 0 :: after).drop (before.length + 1) = after := by
    rw [List.drop_length_add_append, List.drop_succ_cons, List.drop_zero]
  simp only [Groups.toHost, hmissing, htake, hdrop, List.append_assoc, ← hzeros,
    List.cons_append, List.nil_append]

/-- Eight pieces without a gap. -/
theorem parseLong_writeGroups {groups : List ℕ} (hlength : groups.length = 8)
    (hlt : ∀ k ∈ groups, k < 2 ^ 16) : parseLong (writeGroups groups) = .ok (.long groups) := by
  obtain ⟨g, more, rfl⟩ := List.exists_cons_of_length_pos (l := groups) (by omega)
  obtain ⟨c, rest, hc, hcons⟩ := exists_writeGroups_eq_cons g more
  have htext := length_le_length_writeGroups (g :: more)
  rw [hcons, List.length_cons (a := c), hlength] at htext
  have hread := readGroups_writeGroups {} hlt (by simp at hlength ⊢; omega)
    (rest.length - 6)
  rw [hlength, hcons, show 8 + (rest.length - 6) = rest.length + 2 by omega] at hread
  rw [hcons, parseLong_of_ne_colon hc (List.ne_nil_of_length_pos (by omega)) hread]
  simp [Groups.toHost, hlength]

/-- Pieces on both sides of a gap. The text has room for all of them, so there is fuel. -/
theorem parseLong_gap {before after : List ℕ} (hroom : before.length + 1 + after.length ≤ 8)
    (hbefore : ∀ k ∈ before, k < 2 ^ 16) (hafter : ∀ k ∈ after, k < 2 ^ 16) :
    parseLong (writeGroups before ++ ':' :: ':' :: writeGroups after) =
      Groups.toHost ⟨before ++ 0 :: after, some (before.length + 1)⟩ := by
  have hafterText := length_le_length_writeGroups after
  cases before with
  | nil =>
      refine parseLong_colons ?_
      obtain ⟨fuel, hfuel⟩ : ∃ fuel, (writeGroups after).length + 3 = after.length + (fuel + 1) :=
        ⟨(writeGroups after).length + 2 - after.length, by omega⟩
      rw [hfuel]
      exact readGroups_after [] hafter hroom fuel
  | cons g more =>
      obtain ⟨c, rest, hc, hcons⟩ := exists_writeGroups_eq_cons g more
      have hbeforeText := length_le_length_writeGroups (g :: more)
      rw [hcons] at hbeforeText
      obtain ⟨fuel, hfuel⟩ : ∃ fuel, (rest ++ ':' :: ':' :: writeGroups after).length + 2 =
          (g :: more).length + (after.length + (fuel + 1) + 1) := by
        refine ⟨(rest ++ ':' :: ':' :: writeGroups after).length - (g :: more).length -
          after.length, ?_⟩
        simp only [List.length_append, List.length_cons] at hbeforeText ⊢
        omega
      have hread : readGroups ((g :: more).length + (after.length + (fuel + 1) + 1)) {}
          (writeGroups (g :: more) ++ ':' :: ':' :: writeGroups after) =
          some ⟨(g :: more) ++ 0 :: after, some ((g :: more).length + 1)⟩ := by
        rw [readGroups_writeGroups_colons {} hbefore (by simp at hroom ⊢; omega)]
        exact readGroups_colon (g :: more) hafter hroom fuel
      rw [← hfuel, hcons, List.cons_append] at hread
      rw [hcons, List.cons_append, parseLong_of_ne_colon hc (by simp) hread]

/-- **Eight pieces.** An address of eight pieces is read as it is written. -/
theorem parseLong_longText {groups : List ℕ} (h : (Host.long groups).IsAddress) :
    parseLong (longText groups) = .ok (.long groups) := by
  obtain ⟨hlength, hlt⟩ := h
  unfold longText
  split
  next => exact parseLong_writeGroups hlength hlt
  next first n hzeros =>
    have hrun := isZeroRun_of_longestZeros hzeros
    have htwo : 2 ≤ n := hrun.two_le
    have heq := hrun.eq
    generalize groups.take first = before at heq ⊢
    generalize groups.drop (first + n) = after at heq ⊢
    subst heq
    simp only [List.length_append, List.length_replicate] at hlength
    have hbefore : ∀ k ∈ before, k < 2 ^ 16 := fun k hk =>
      hlt k (List.mem_append_left _ (List.mem_append_left _ hk))
    have hafter : ∀ k ∈ after, k < 2 ^ 16 := fun k hk => hlt k (List.mem_append_right _ hk)
    rw [parseLong_gap (by omega) hbefore hafter, toHost_gap (by omega) hlength]

/-! ### What is read is an address -/

theorem value?_lt {c : Char} {d : ℕ} (h : Hex.value? c = some d) : d < 16 := by
  unfold Hex.value? at h
  simp only [Char.le_def, UInt32.le_iff_toNat_le] at h
  change (if 48 ≤ c.toNat ∧ c.toNat ≤ 57 then some (c.toNat - 48)
    else if 97 ≤ c.toNat ∧ c.toNat ≤ 102 then some (c.toNat - 87)
    else if 65 ≤ c.toNat ∧ c.toNat ≤ 70 then some (c.toNat - 55) else none) = some d at h
  split at h
  · cases h; omega
  · split at h
    · cases h; omega
    · split at h
      · cases h; omega
      · cases h

/-- Four hexadecimal digits make no more than a piece. -/
theorem foldl_hex_lt {digits : List Char} (h : digits.length ≤ 4) :
    digits.foldl (fun n c => 16 * n + (Hex.value? c).getD 0) 0 < 2 ^ 16 := by
  have hdigits : ∀ d ∈ digits.map fun c => (Hex.value? c).getD 0, d < 16 := by
    intro d hd
    obtain ⟨c, -, rfl⟩ := List.mem_map.mp hd
    cases hc : Hex.value? c with
    | none => decide
    | some d => exact value?_lt hc
  have hlt := foldl_lt_of_forall_lt hdigits
  rw [List.foldl_map, List.length_map] at hlt
  calc _ < 16 ^ digits.length := hlt
    _ ≤ 16 ^ 4 := Nat.pow_le_pow_right (by decide) h
    _ = 2 ^ 16 := by decide

/-- Every element of a mapped list comes from one of the list. -/
theorem exists_of_mem_mapM {α β : Type} {f : α → Option β} {xs : List α} {ys : List β}
    (h : xs.mapM f = some ys) {y : β} (hy : y ∈ ys) : ∃ x ∈ xs, f x = some y := by
  induction xs generalizing ys with
  | nil =>
      obtain rfl : [] = ys := Option.some.inj h
      cases hy
  | cons x xs ih =>
      rw [List.mapM_cons] at h
      obtain ⟨first, hfirst, h⟩ := Option.bind_eq_some_iff.mp h
      obtain ⟨others, hothers, h⟩ := Option.bind_eq_some_iff.mp h
      obtain rfl : first :: others = ys := Option.some.inj h
      rcases List.mem_cons.mp hy with rfl | hy
      · exact ⟨x, List.mem_cons_self .., hfirst⟩
      · obtain ⟨x', hx', hf⟩ := ih hothers hy
        exact ⟨x', List.mem_cons_of_mem x hx', hf⟩

/-- Four decimal bytes make two pieces that fit. -/
theorem embeddedGroups?_spec {text : List Char} {two : List ℕ}
    (h : embeddedGroups? text = some two) : two.length = 2 ∧ ∀ g ∈ two, g < 2 ^ 16 := by
  unfold embeddedGroups? at h
  split at h
  next a b c d hbytes =>
    have hbyte : ∀ n ∈ [a, b, c, d], n ≤ 255 := by
      intro n hn
      obtain ⟨digits, -, hdigits⟩ := exists_of_mem_mapM hbytes hn
      simp only [byteNumber?, Option.ite_none_left_eq_some, Bool.or_eq_true, decide_eq_true_eq,
        not_or, Option.some.injEq] at hdigits
      omega
    have ha := hbyte a (by simp)
    have hb := hbyte b (by simp)
    have hc := hbyte c (by simp)
    have hd := hbyte d (by simp)
    obtain rfl := Option.some.inj h
    refine ⟨rfl, fun g hg => ?_⟩
    simp only [List.mem_cons, List.not_mem_nil, or_false] at hg
    rcases hg with rfl | rfl <;> omega
  next => cases h

/-- Whether pieces fit an address. -/
structure Groups.Fit (state : Groups) : Prop where
  length_le : state.read.length ≤ 8
  lt : ∀ g ∈ state.read, g < 2 ^ 16

/-- Pieces that fit may be added while there is room. -/
theorem Groups.Fit.append {state : Groups} (h : state.Fit) {more : List ℕ}
    (hroom : state.read.length + more.length ≤ 8) (hmore : ∀ g ∈ more, g < 2 ^ 16)
    (gap : Option ℕ) : Groups.Fit ⟨state.read ++ more, gap⟩ where
  length_le := by simpa using hroom
  lt g hg := by
    rcases List.mem_append.mp hg with hg | hg
    · exact h.lt g hg
    · exact hmore g hg

/-- A piece more fits where there is room. -/
theorem Groups.Fit.concat {state : Groups} (h : state.Fit) (hroom : ¬ state.read.length = 8)
    {g : ℕ} (hg : g < 2 ^ 16) (gap : Option ℕ) : Groups.Fit ⟨state.read ++ [g], gap⟩ :=
  h.append (by have := h.length_le; simp; omega) (by simpa using hg) gap

/-- What is read fits. -/
theorem fit_of_readGroups {fuel : ℕ} {state result : Groups} {text : List Char}
    (h : readGroups fuel state text = some result) (hfit : state.Fit) : result.Fit := by
  have hpiece (text : List Char) : ((text.take 4).takeWhile fun c =>
      (Hex.value? c).isSome).length ≤ 4 :=
    Nat.le_trans (List.takeWhile_prefix _).length_le (List.length_take_le 4 text)
  fun_induction readGroups fuel state text with
  | case1 | case3 | case5 | case7 | case9 | case11 => cases h
  | case2 => exact Option.some.inj h ▸ hfit
  | case4 fuel state rest hroom ih =>
      simp only [Bool.or_eq_true, decide_eq_true_eq, not_or] at hroom
      exact ih h (hfit.concat hroom.1 (by decide) _)
  | case6 fuel state text _ _ hroom =>
      exact Option.some.inj h ▸ hfit.concat hroom (foldl_hex_lt (hpiece text)) _
  | case8 fuel state text _ _ _ _ _ _ hroom =>
      obtain ⟨two, htwo, rfl⟩ := Option.map_eq_some_iff.mp h
      obtain ⟨hlength, hlt⟩ := embeddedGroups?_spec htwo
      simp only [Bool.or_eq_true, decide_eq_true_eq, not_or] at hroom
      exact hfit.append (by omega) hlt _
  | case10 fuel state text _ _ hroom _ _ _ _ _ ih =>
      exact ih h (hfit.concat hroom (foldl_hex_lt (hpiece text)) _)

/-- What is read as an address of eight pieces is one. -/
theorem isAddress_of_parseLong {text : List Char} {h : Host} (hparse : parseLong text = .ok h) :
    ∃ groups, h = .long groups ∧ (Host.long groups).IsAddress := by
  unfold parseLong at hparse
  simp only at hparse
  generalize hread : Option.bind _ _ = result at hparse
  have hfit : ∀ state : Groups, result = some state → state.Fit := by
    rintro state rfl
    obtain ⟨⟨start, rest⟩, hstart, hread⟩ := Option.bind_eq_some_iff.mp hread
    have hfirst : start.Fit := by
      split at hstart
      next =>
        obtain rfl := (Prod.mk.inj (Option.some.inj hstart)).1
        exact ⟨by simp, by simp⟩
      next => cases hstart
      next => cases hstart
      next => cases hstart
      next =>
        obtain rfl := (Prod.mk.inj (Option.some.inj hstart)).1
        exact ⟨by simp, by simp⟩
    exact fit_of_readGroups hread hfirst
  split at hparse
  next => cases hparse
  next read =>
    split at hparse
    next hlength =>
      exact ⟨read, (Except.ok.inj hparse).symm, hlength, (hfit _ rfl).lt⟩
    next => cases hparse
  next read gap =>
    obtain ⟨hle, hlt⟩ := hfit _ rfl
    refine ⟨_, (Except.ok.inj hparse).symm, ?_, fun g hg => ?_⟩
    · simp only [List.length_append, List.length_take, List.length_drop, List.length_replicate]
        at hle ⊢
      omega
    · rcases List.mem_append.mp hg with hg | hg
      · rcases List.mem_append.mp hg with hg | hg
        · exact hlt g (List.mem_of_mem_take hg)
        · rw [(List.mem_replicate.mp hg).2]
          decide
      · exact hlt g (List.mem_of_mem_drop hg)

end Host

end PullDiagnostics
