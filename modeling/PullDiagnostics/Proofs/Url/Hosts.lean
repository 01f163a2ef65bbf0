import PullDiagnostics.Proofs.Text.LineEnds
import PullDiagnostics.Proofs.Text.Punycode
import PullDiagnostics.Proofs.Text.Utf8
import PullDiagnostics.Proofs.Url.Address
import PullDiagnostics.Proofs.Url.Encoding
import PullDiagnostics.Url.Parser

/-!
# Hosts that are read again

A host that was read is settled: its text leads back to it, and holds nothing that would end it
where a URL is read. A name is settled for it has been put into ASCII and lower case, or into
percent form, when it was read; an address, for it is the number that its text stands for. Only
where a name in ASCII is too long to be read is it refused.

## Main results

* `Host.isKept_of_asciiName?`: a name under a well-known scheme is kept as it is.
* `Host.settled_of_parseSpecial`: a host under a well-known scheme is settled if it is not refused.
* `Host.settled_of_parseOther`: a host under any other scheme is settled.
-/

namespace PullDiagnostics

namespace Host

open Text (exists_digitChar_of_mem_toDigits)
open Url (takeHost isDriveLetter endsPath isSlash)

/-- Whether a character may stand in the text of a host. -/
def isHostChar (c : Char) : Bool :=
  0x20 < c.toNat && c.toNat < 0x7F && !(['#', '/', '?', '@', '\\', '|'].contains c)

/-- Whether the text of a host leads back to it, and what follows it is not taken for a part of
it. -/
structure Settled (parse : List Char → Except UrlError Host) (h : Host) : Prop where
  parse_write : parse h.write = .ok h
  chars : ∀ c ∈ h.write, isHostChar c = true
  takeHost_append : ∀ port, port = [] ∨ (∃ digits, port = ':' :: digits) →
    takeHost false (h.write ++ port) = h.write

/-- No character of a host is a blank or a control, or ends the host. -/
theorem isHostChar_spec {c : Char} (h : isHostChar c = true) :
    0x20 < c.toNat ∧ endsPath c = false ∧ isSlash .file c = false := by
  simp [isHostChar] at h
  obtain ⟨⟨hlow, -⟩, hsharp, hslash, hquestion, -, hback, -⟩ := h
  exact ⟨hlow, by simp [endsPath, hsharp, hquestion], by simp [isSlash, hslash, hback]⟩

/-! ### Where a host ends -/

/-- A host ends before its port. -/
theorem takeHost_port {port : List Char} (h : port = [] ∨ ∃ digits, port = ':' :: digits) :
    takeHost false port = [] := by
  rcases h with rfl | ⟨digits, rfl⟩
  · rfl
  · rfl

/-- Without brackets and colons all of a text is the host. -/
theorem takeHost_append_of_forall {text : List Char}
    (h : ∀ c ∈ text, c ≠ ':' ∧ c ≠ '[' ∧ c ≠ ']') (port : List Char) :
    takeHost false (text ++ port) = text ++ takeHost false port := by
  induction text with
  | nil => rfl
  | cons c rest ih =>
      obtain ⟨hcolon, hopen, hclose⟩ := h c (List.mem_cons_self ..)
      simp [takeHost, hcolon, hopen, hclose, ih fun d hd => h d (List.mem_cons_of_mem c hd)]

/-- Between brackets a colon does not end the host. -/
theorem takeHost_bracket {inner : List Char} (h : ']' ∉ inner) (port : List Char) :
    takeHost true (inner ++ ']' :: port) = inner ++ ']' :: takeHost false port := by
  induction inner with
  | nil => simp [takeHost]
  | cons c rest ih =>
      rw [List.mem_cons, not_or] at h
      simp [takeHost, Ne.symm h.1, ih h.2]

/-- A host is no drive letter, for its text would end at the colon. -/
theorem Settled.not_drive {parse : List Char → Except UrlError Host}
    {h : Host} (hsettled : h.Settled parse) : isDriveLetter h.write = false := by
  have htake := hsettled.takeHost_append [] (.inl rfl)
  have hchars := hsettled.chars
  rw [List.append_nil] at htake
  cases hdrive : isDriveLetter h.write with
  | false => rfl
  | true =>
      generalize h.write = text at htake hchars hdrive
      unfold isDriveLetter at hdrive
      split at hdrive
      next letter mark =>
        simp only [Bool.and_eq_true, Bool.or_eq_true, decide_eq_true_eq] at hdrive
        obtain ⟨hletter, rfl | rfl⟩ := hdrive
        · have hne (d : Char) (hd : d.isAlpha = false) : letter ≠ d := by
            rintro rfl
            rw [hd] at hletter
            cases hletter
          simp [takeHost, hne ':' (by decide), hne '[' (by decide), hne ']' (by decide)] at htake
        · exact absurd (hchars '|' (by simp)) (by decide)
      next => cases hdrive

/-! ### Addresses -/

/-- Pieces are written with colons and hexadecimal digits. -/
theorem mem_writeGroups {groups : List ℕ} {c : Char} (h : c ∈ writeGroups groups) :
    c = ':' ∨ ∃ d < 16, c = d.digitChar := by
  rcases mem_of_mem_intercalate h with rfl | ⟨digits, hdigits, hc⟩
  · exact .inl rfl
  · obtain ⟨g, -, rfl⟩ := List.mem_map.mp hdigits
    exact .inr (exists_digitChar_of_mem_toDigits (by decide) hc)

/-- So is an address of eight pieces, apart from its brackets. -/
theorem mem_longText {groups : List ℕ} {c : Char} (h : c ∈ longText groups) :
    c = ':' ∨ ∃ d < 16, c = d.digitChar := by
  rw [longText] at h
  split at h
  next => exact mem_writeGroups h
  next =>
    simp only [List.mem_append, List.mem_cons] at h
    rcases h with h | rfl | rfl | h
    · exact mem_writeGroups h
    · exact .inl rfl
    · exact .inl rfl
    · exact mem_writeGroups h

/-- Between the brackets stands the address. -/
theorem bracketed?_write_long (groups : List ℕ) :
    bracketed? (Host.long groups).write = some (longText groups) := by
  rw [write_long, bracketed?, ← List.cons_append, List.getLast?_concat, List.length_append]
  simp

/-- An address between brackets is settled wherever what stands between brackets is read as an
address. -/
theorem settled_long {parse : List Char → Except UrlError Host}
    (hparse : ∀ text inner, text.head? = some '[' → bracketed? text = some inner →
      parse text = parseLong inner) {groups : List ℕ} (h : (Host.long groups).IsAddress) :
    Settled parse (.long groups) where
  parse_write := by
    rw [hparse _ _ (by rw [write_long]; rfl) (bracketed?_write_long groups), parseLong_longText h]
  chars c hc := by
    have hdigit : ∀ d < 16, isHostChar (Nat.digitChar d) = true := by decide
    rw [write_long, List.mem_cons, List.mem_append, List.mem_singleton] at hc
    rcases hc with rfl | hc | rfl
    · decide
    · rcases mem_longText hc with rfl | ⟨d, hd, rfl⟩
      · decide
      · exact hdigit d hd
    · decide
  takeHost_append port hport := by
    have hclose : ']' ∉ longText groups := by
      have hdigit : ∀ d < 16, ']' ≠ Nat.digitChar d := by decide
      intro hmem
      rcases mem_longText hmem with heq | ⟨d, hd, heq⟩
      · cases heq
      · exact hdigit d hd heq
    rw [write_long, List.cons_append, List.append_assoc, List.singleton_append, takeHost]
    simp [takeHost_bracket hclose, takeHost_port hport]

/-! ### Names under well-known schemes -/

/-- Whether a character may stand in a name under a well-known scheme as it is kept. -/
def isKept (c : Char) : Bool :=
  Text.Punycode.isBasic c && !isDenied c

/-- A character that is kept is none of those that are not. -/
theorem ne_of_isKept {c d : Char} (h : isKept c = true) (hd : isKept d = false) : c ≠ d := by
  rintro rfl
  rw [h] at hd
  cases hd

/-- A character that is kept is in lower case. -/
theorem toLower_of_isKept {c : Char} (h : isKept c = true) : c.toLower = c := by
  simp only [isKept, isDenied, Bool.and_eq_true, Bool.not_eq_true', Bool.or_eq_false_iff] at h
  obtain ⟨-, ⟨-, hupper⟩, -⟩ := h
  exact Text.toLower_of_not_isUpper hupper

/-- A character that is kept ends no host. -/
theorem isHostChar_and_ne_of_isKept {c : Char} (h : isKept c = true) :
    isHostChar c = true ∧ c ≠ ':' ∧ c ≠ '[' ∧ c ≠ ']' := by
  refine ⟨?_, ne_of_isKept h (by decide), ne_of_isKept h (by decide), ne_of_isKept h (by decide)⟩
  simp [isKept, isDenied, isHostChar, Text.Punycode.isBasic] at h ⊢
  refine ⟨⟨by omega, by omega⟩, ?_⟩
  tauto

/-- The digits of spelled characters are kept. -/
theorem isKept_digit {value : ℕ} (h : value < 36) : isKept (Text.Punycode.digit value) = true := by
  have hall : ∀ value < 36, isKept (Text.Punycode.digit value) = true := by decide
  exact hall value h

/-- A text that is kept is the name it stands for, if its labels may be as they are. -/
theorem asciiName?_of_isKept {text : List Char} (h : ∀ c ∈ text, isKept c = true) :
    asciiName? text = if Label.areValid (text.splitOn '.') then some text else none := by
  have hbasic : Label.isBasic text = true :=
    List.all_eq_true.mpr fun c hc => (Bool.and_eq_true_iff.mp (h c hc)).1
  have hlower : text.map Char.toLower = text :=
    (List.map_congr_left fun c hc => toLower_of_isKept (h c hc)).trans (List.map_id _)
  have hdenied : text.any isDenied = false := List.any_eq_false.mpr fun c hc => by
    simpa using (Bool.and_eq_true_iff.mp (h c hc)).2
  have hwrite : (text.splitOn '.').map Label.write = text.splitOn '.' := by
    refine (List.map_congr_left fun label hlabel => ?_).trans (List.map_id _)
    refine if_pos (List.all_eq_true.mpr fun c hc => ?_)
    exact List.all_eq_true.mp hbasic c (Text.mem_of_mem_splitOn hlabel hc)
  rw [asciiName?, Label.normal?, if_pos hbasic, hlower, Option.bind_some]
  simp only [hdenied, Bool.false_or, hwrite, List.intercalate_splitOn]
  cases Label.areValid (text.splitOn '.') <;> rfl

/-- A text that is kept is read without decoding. -/
theorem parseSpecial_of_isKept {text : List Char} (h : ∀ c ∈ text, isKept c = true) :
    parseSpecial text =
      if !Label.areValid (text.splitOn '.') then .error .invalidName
      else if text.isEmpty then .error .emptyHost
      else if endsInNumber text then parseShort text
      else .ok (.name text) := by
  have hbracket : text.head? ≠ some '[' := by
    intro hhead
    exact ne_of_isKept (h _ (List.mem_of_mem_head? hhead)) (by decide) rfl
  have hpercent : '%' ∉ text := fun hmem => ne_of_isKept (h _ hmem) (by decide) rfl
  rw [parseSpecial, if_neg hbracket, Percent.decode_of_not_mem hpercent, Utf8.decode?_encode,
    Option.bind_some, asciiName?_of_isKept h]
  cases Label.areValid (text.splitOn '.') <;> rfl

/-- A label in ASCII is kept, if its characters in ASCII are not denied. -/
theorem isKept_of_mem_write {label : List Char} (h : ∀ c ∈ label, isDenied c = false) :
    ∀ c ∈ Label.write label, isKept c = true := by
  intro c hc
  rw [Label.write] at hc
  split at hc
  next hbasic =>
    rw [isKept, List.all_eq_true.mp hbasic c hc, h c hc]
    rfl
  next =>
    have hmark : ∀ c ∈ Label.spellingMark, isKept c = true := by
      simp [Label.spellingMark, isKept, isDenied, Text.Punycode.isBasic]
    rcases List.mem_append.mp hc with hc | hc
    · exact hmark c hc
    · rcases Text.Punycode.of_mem_encode hc with ⟨hc, hbasic⟩ | rfl | ⟨value, hvalue, rfl⟩
      · rw [isKept, hbasic, h c hc]
        rfl
      · decide
      · exact isKept_digit hvalue

/-- **Names in ASCII.** The name that a text stands for is kept as it is. -/
theorem isKept_of_asciiName? {text name : List Char} (h : asciiName? text = some name) :
    ∀ c ∈ name, isKept c = true := by
  obtain ⟨shown, -, h⟩ := Option.bind_eq_some_iff.mp h
  simp only [Option.ite_none_left_eq_some, Bool.or_eq_true, not_or, Bool.not_eq_true,
    List.any_eq_false, Option.some.injEq] at h
  obtain ⟨⟨hdenied, -⟩, rfl⟩ := h
  intro c hc
  rcases mem_of_mem_intercalate hc with rfl | ⟨written, hwritten, hc⟩
  · decide
  · obtain ⟨label, hlabel, rfl⟩ := List.mem_map.mp hwritten
    refine isKept_of_mem_write (fun d hd => ?_) c hc
    exact hdenied d (Text.mem_of_mem_splitOn hlabel hd)

/-- Labels of digits may be as they are. -/
theorem areValid_of_digits {labels : List (List Char)}
    (h : ∀ label ∈ labels, ∀ c ∈ label, ∃ d < 10, c = Nat.digitChar d) :
    Label.areValid labels = true := by
  have hread : ∀ label ∈ labels, Label.read? label = some label := by
    intro label hlabel
    have hmark : Label.spellingMark.isPrefixOf label = false := by
      cases label with
      | nil => rfl
      | cons c rest =>
          obtain ⟨d, hd, rfl⟩ := h _ hlabel c (List.mem_cons_self ..)
          have hno : ∀ d < 10, ('x' == Nat.digitChar d) = false := by decide
          simp [Label.spellingMark, List.isPrefixOf, hno d hd]
    have hbasic : Label.isBasic label = true := by
      have hdigit : ∀ d < 10, Text.Punycode.isBasic (Nat.digitChar d) = true := by decide
      refine List.all_eq_true.mpr fun c hc => ?_
      obtain ⟨d, hd, rfl⟩ := h label hlabel c hc
      exact hdigit d hd
    rw [Label.read?, hmark, if_neg Bool.false_ne_true, hbasic, Bool.true_or, if_pos rfl]
  have hall : labels.mapM Label.read? = some labels := by
    clear h
    induction labels with
    | nil => rfl
    | cons label rest ih =>
        simp [List.mapM_cons, hread label, ih fun other hother =>
          hread other (List.mem_cons_of_mem label hother)]
  have hleft : ∀ d < 10, (Text.Direction.ofChar (Nat.digitChar d)).isFromRight = false := by
    decide +kernel
  have hany : (labels.any (·.any fun c => (Text.Direction.ofChar c).isFromRight)) = false := by
    simp only [List.any_eq_false, List.any_eq_true, not_exists, not_and]
    intro label hlabel c hc
    obtain ⟨d, hd, rfl⟩ := h label hlabel c hc
    rw [hleft d hd]
    exact Bool.false_ne_true
  simp only [Label.areValid, hall, hany, Bool.false_eq_true, if_false]

/-- An address of four bytes is settled. -/
theorem settled_short {n : ℕ} (h : (Host.short n).IsAddress) :
    Settled parseSpecial (.short n) := by
  have hdigit : ∀ d < 10, isKept (Nat.digitChar d) = true := by decide
  have hkept : ∀ c ∈ (Host.short n).write, isKept c = true := by
    intro c hc
    rcases mem_write_short hc with rfl | ⟨d, hd, rfl⟩
    · decide
    · exact hdigit d hd
  have hvalid : Label.areValid ((Host.short n).write.splitOn '.') = true := by
    rw [splitOn_write_short]
    refine areValid_of_digits fun label hlabel c hc => ?_
    obtain ⟨k, -, rfl⟩ := List.mem_map.mp hlabel
    exact exists_digitChar_of_mem_toDigits (by decide) hc
  have hnonempty : (Host.short n).write.isEmpty = false := by
    cases hwrite : (Host.short n).write with
    | nil =>
        have hends := endsInNumber_write_short n
        rw [hwrite] at hends
        cases hends
    | cons => rfl
  have hchars := fun c hc => isHostChar_and_ne_of_isKept (hkept c hc)
  refine ⟨?_, fun c hc => (hchars c hc).1, fun port hport => ?_⟩
  · rw [parseSpecial_of_isKept hkept, hvalid, hnonempty, endsInNumber_write_short]
    exact parseShort_write h
  · rw [takeHost_append_of_forall (fun c hc => (hchars c hc).2) port, takeHost_port hport,
      List.append_nil]

/-- A name that leads back to itself is settled. -/
theorem settled_name {parse : List Char → Except UrlError Host} {text : List Char}
    (hchars : ∀ c ∈ text, isHostChar c = true ∧ c ≠ ':' ∧ c ≠ '[' ∧ c ≠ ']')
    (hparse : parse text = .ok (.name text)) : Settled parse (.name text) where
  parse_write := hparse
  chars c hc := (hchars c hc).1
  takeHost_append port hport := by
    rw [write, takeHost_append_of_forall (fun c hc => (hchars c hc).2) port, takeHost_port hport,
      List.append_nil]

/-- **Well-known schemes.** A host that was read is there, and it is settled if it is not refused
where it is written. -/
theorem settled_of_parseSpecial {text : List Char} {h : Host} (hparse : parseSpecial text = .ok h) :
    h ≠ .name [] ∧
      ∀ again, parseSpecial h.write = .ok again → Settled parseSpecial h := by
  have hlong (text inner : List Char) (hhead : text.head? = some '[')
      (hinner : bracketed? text = some inner) : parseSpecial text = parseLong inner := by
    rw [parseSpecial, if_pos hhead, hinner]
  rw [parseSpecial] at hparse
  split at hparse
  next =>
    split at hparse
    next inner _ =>
      obtain ⟨groups, rfl, haddress⟩ := isAddress_of_parseLong hparse
      exact ⟨by simp, fun _ _ => settled_long hlong haddress⟩
    next => cases hparse
  next =>
    split at hparse
    next => cases hparse
    next written hwritten =>
      obtain ⟨decoded, -, hascii⟩ := Option.bind_eq_some_iff.mp hwritten
      have hkept := isKept_of_asciiName? hascii
      split at hparse
      next => cases hparse
      next hnonempty =>
        split at hparse
        next =>
          obtain ⟨n, rfl, haddress⟩ := isAddress_of_parseShort hparse
          exact ⟨by simp, fun _ _ => settled_short haddress⟩
        next hends =>
          obtain rfl := Except.ok.inj hparse
          refine ⟨fun hnil => hnonempty (by rw [Host.name.inj hnil]; rfl), fun again hagain => ?_⟩
          refine settled_name (fun c hc => isHostChar_and_ne_of_isKept (hkept c hc)) ?_
          -- The labels are all that the name could be refused for.
          rw [write, parseSpecial_of_isKept hkept] at hagain
          rw [parseSpecial_of_isKept hkept]
          split at hagain
          next => cases hagain
          next hvalid => rw [if_neg hvalid, if_neg hnonempty, if_neg hends]

/-! ### Names under other schemes -/

/-- Encoding controls brings in no forbidden character. -/
theorem isForbidden_of_mem_encodeText {text : List Char} (h : ∀ c ∈ text, isForbidden c = false) :
    ∀ c ∈ Percent.encodeText Percent.controls text, isForbidden c = false := by
  intro c hc
  have hdigit : ∀ n < 16, isForbidden (Hex.upperDigit n) = false := by decide
  by_cases hpercent : c = '%'
  · subst hpercent
    decide
  · by_cases hhex : ∃ n < 16, c = Hex.upperDigit n
    · obtain ⟨n, hn, rfl⟩ := hhex
      exact hdigit n hn
    · exact h c (Percent.mem_of_mem_encodeText hc hpercent fun n hn heq => hhex ⟨n, hn, heq⟩)

/-- A character of an encoded name that is not forbidden may stand in a host, and is none of the
marks that are read there. -/
theorem isHostChar_and_ne_of_isForbidden {c : Char} (h : isForbidden c = false)
    (hclear : c.toNat < 0x80 ∧ Percent.controls.holds c = false) :
    isHostChar c = true ∧ c ≠ ':' ∧ c ≠ '[' ∧ c ≠ ']' := by
  have hspace : c ≠ ' ' := by
    rintro rfl
    revert h
    decide
  have hspace' : c.toNat ≠ 0x20 := fun heq => hspace (Char.toNat_inj.mp heq)
  simp [isForbidden, isHostChar, Percent.controls] at h hclear ⊢
  refine ⟨⟨by omega, ?_⟩, ?_⟩ <;> tauto

/-- **Other schemes.** A host that was read is settled. -/
theorem settled_of_parseOther {text : List Char} {h : Host} (hparse : parseOther text = .ok h) :
    Settled parseOther h := by
  have hlong (text inner : List Char) (hhead : text.head? = some '[')
      (hinner : bracketed? text = some inner) : parseOther text = parseLong inner := by
    rw [parseOther, if_pos hhead, hinner]
  rw [parseOther] at hparse
  split at hparse
  next =>
    split at hparse
    next inner _ =>
      obtain ⟨groups, rfl, haddress⟩ := isAddress_of_parseLong hparse
      exact settled_long hlong haddress
    next => cases hparse
  next =>
    split at hparse
    next => cases hparse
    next hforbidden =>
      obtain rfl := Except.ok.inj hparse
      rw [Bool.not_eq_true, List.any_eq_false] at hforbidden
      have hname := isForbidden_of_mem_encodeText fun c hc => by simpa using hforbidden c hc
      have hclear := Percent.clear_encodeText Percent.isOpen_controls text
      generalize Percent.encodeText Percent.controls text = name at hname hclear
      refine settled_name
        (fun c hc => isHostChar_and_ne_of_isForbidden (hname c hc) (hclear c hc)) ?_
      have hbracket : name.head? ≠ some '[' := by
        intro hhead
        have hopen := hname _ (List.mem_of_mem_head? hhead)
        revert hopen
        decide
      have hany : name.any isForbidden = false :=
        List.any_eq_false.mpr fun c hc => Bool.eq_false_iff.mp (hname c hc)
      rw [parseOther, if_neg hbracket, hany, if_neg Bool.false_ne_true,
        Percent.encodeText_of_clear hclear]

end Host

end PullDiagnostics
