import PullDiagnostics.Proofs.Url.Encoding
import PullDiagnostics.Url.Parser

/-!
# Paths that are read again

Reading a path encodes its segments, resolves dot segments and leaves the rest alone. What it
leaves is plain: nothing in a segment is encoded or ends it, and none is a dot segment. Plain
segments are read as they stand. Only at the start of a file's path there is more to it: a drive
letter that stands there stays, and takes the place of the host.

## Main results

* `plainPath_of_readPath`: what a path is read as is plain, unless it starts with a drive letter.
* `readPath_of_plain`, `readPath_file_of_plain`: plain segments are read as they stand.
-/

namespace PullDiagnostics.Url

/-! ### What does not count -/

/-- Every character counts that is no control. -/
theorem isIgnored_eq_false_of_le {c : Char} (h : 0x20 ≤ c.toNat) : isIgnored c = false := by
  have hne (d : Char) (hd : d.toNat < 0x20) : c ≠ d := by
    rintro rfl
    omega
  simp [isIgnored, hne '\t' (by decide), hne '\n' (by decide), hne '\r' (by decide)]

/-- A text without control characters has nothing that does not count. -/
theorem isIgnored_eq_false_of_clear {text : List Char} (h : Percent.controls.Clear text) :
    ∀ c ∈ text, isIgnored c = false := by
  intro c hc
  have hholds := (h c hc).2
  simp only [Percent.controls, Bool.or_eq_false_iff, decide_eq_false_iff_not] at hholds
  exact isIgnored_eq_false_of_le (Nat.not_lt.mp hholds.1)

/-- Nothing is left out of a text in which every character counts. -/
theorem visible_eq_self {text : List Char} (h : ∀ c ∈ text, isIgnored c = false) :
    visible text = text :=
  List.filter_eq_self.mpr fun c hc => by rw [h c hc]; rfl

/-- Nor is anything dropped from its start. -/
theorem dropWhile_isIgnored_eq_self {text : List Char} (h : ∀ c ∈ text, isIgnored c = false) :
    text.dropWhile isIgnored = text := by
  cases text with
  | nil => rfl
  | cons c rest => rw [List.dropWhile_cons, h c (List.mem_cons_self ..), if_neg Bool.false_ne_true]

/-- Nor does anything divide a drive letter in it. -/
theorem dividedDrive?_eq_none {raw : List Char} (h : ∀ c ∈ raw, isIgnored c = false) :
    dividedDrive? raw = none := by
  unfold dividedDrive?
  rw [dropWhile_isIgnored_eq_self h]
  split
  next letter rest =>
    rw [dropWhile_isIgnored_eq_self fun c hc => h c (List.mem_cons_of_mem letter hc)]
    split
    next divider after =>
      split
      · rfl
      · rw [h divider (by simp), Bool.and_false, if_neg Bool.false_ne_true]
    next => rfl
  next => rfl

/-- What is divided off is a drive letter. -/
theorem isDriveLetter_of_dividedDrive?_eq_some {raw drive after : List Char}
    (h : dividedDrive? raw = some (drive, after)) : isDriveLetter drive = true := by
  unfold dividedDrive? at h
  split at h
  next letter rest _ =>
    split at h
    next divider more _ =>
      split at h
      · cases h
      · rw [Option.ite_none_right_eq_some] at h
        obtain ⟨hletter, heq⟩ := h
        rw [Bool.and_eq_true] at hletter
        obtain rfl : [letter, ':'] = drive := congrArg Prod.fst (Option.some.inj heq)
        simp [isDriveLetter, hletter.1]
    next => cases h
  next => cases h

/-! ### Splitting -/

section Split

variable {ends : Char → Bool}

theorem splitAtAny_ne_nil (ends : Char → Bool) (text : List Char) : splitAtAny ends text ≠ [] := by
  cases text with
  | nil => simp [splitAtAny]
  | cons c rest =>
      simp only [splitAtAny]
      split
      · simp
      · split <;> simp

/-- A stretch holds nothing that ends it. -/
theorem ends_eq_false_of_mem_splitAtAny {text part : List Char}
    (hpart : part ∈ splitAtAny ends text) : ∀ c ∈ part, ends c = false := by
  induction text generalizing part with
  | nil =>
      rw [splitAtAny, List.mem_singleton] at hpart
      simp [hpart]
  | cons d rest ih =>
      simp only [splitAtAny] at hpart
      split at hpart
      next =>
        rcases List.mem_cons.mp hpart with rfl | hpart
        · simp
        · exact ih hpart
      next hd =>
        split at hpart
        next hnil => exact absurd hnil (splitAtAny_ne_nil ends rest)
        next first others hrest =>
          rcases List.mem_cons.mp hpart with rfl | hpart
          · intro c hc
            rcases List.mem_cons.mp hc with rfl | hc
            · exact Bool.eq_false_iff.mpr hd
            · exact ih (hrest ▸ List.mem_cons_self ..) c hc
          · exact ih (hrest ▸ List.mem_cons_of_mem first hpart)

/-- A text without marks is one stretch. -/
theorem splitAtAny_of_forall {text : List Char} (h : ∀ c ∈ text, ends c = false) :
    splitAtAny ends text = [text] := by
  induction text with
  | nil => rfl
  | cons c rest ih =>
      rw [splitAtAny, h c (List.mem_cons_self ..), if_neg Bool.false_ne_true,
        ih fun d hd => h d (List.mem_cons_of_mem c hd)]

/-- The first mark ends the first stretch. -/
theorem splitAtAny_append_cons {text : List Char} (h : ∀ c ∈ text, ends c = false) {mark : Char}
    (hmark : ends mark = true) (rest : List Char) :
    splitAtAny ends (text ++ mark :: rest) = text :: splitAtAny ends rest := by
  induction text with
  | nil => rw [List.nil_append, splitAtAny, if_pos hmark]
  | cons c more ih =>
      rw [List.cons_append, splitAtAny, h c (List.mem_cons_self ..), if_neg Bool.false_ne_true,
        ih fun d hd => h d (List.mem_cons_of_mem c hd)]

/-- Splitting gives back what slashes were put between. -/
theorem splitAtAny_join (hslash : ends '/' = true) (first : List Char)
    (others : List (List Char)) (h : ∀ part ∈ first :: others, ∀ c ∈ part, ends c = false) :
    splitAtAny ends (first ++ others.flatMap ('/' :: ·)) = first :: others := by
  induction others generalizing first with
  | nil =>
      rw [List.flatMap_nil, List.append_nil]
      exact splitAtAny_of_forall (h first (List.mem_cons_self ..))
  | cons next others ih =>
      rw [List.flatMap_cons, List.cons_append,
        splitAtAny_append_cons (h first (List.mem_cons_self ..)) hslash,
        ih next fun part hpart => h part (List.mem_cons_of_mem first hpart)]

end Split

theorem isSlash_slash (kind : SchemeKind) : isSlash kind '/' = true := by
  simp [isSlash]

/-! ### Plain segments -/

/-- A segment that is read as it stands. -/
structure SchemeKind.Plain (kind : SchemeKind) (segment : List Char) : Prop where
  clear : Percent.path.Clear segment
  whole : ∀ c ∈ segment, isSlash kind c = false
  not_dot : isDot segment = false
  not_dotDot : isDotDot segment = false

namespace SchemeKind.Plain

variable {kind : SchemeKind} {segment : List Char}

theorem nil : kind.Plain [] where
  clear := .nil
  whole := by simp
  not_dot := rfl
  not_dotDot := rfl

/-- Every character of a plain segment counts. -/
theorem isIgnored_eq_false (h : kind.Plain segment) : ∀ c ∈ segment, isIgnored c = false :=
  isIgnored_eq_false_of_clear h.clear.of_add.of_add

/-- An encoded segment that is no dot segment is plain. -/
theorem encodeSegment {text : List Char} (hwhole : ∀ c ∈ text, isSlash kind c = false)
    (hdot : isDot (encodeSegment text) = false) (hdotDot : isDotDot (encodeSegment text) = false) :
    kind.Plain (Url.encodeSegment text) where
  clear := Percent.clear_encodeText Percent.isOpen_path text
  whole := by
    intro c hc
    cases hslash : isSlash kind c with
    | false => rfl
    | true =>
        have hmark : c = '/' ∨ c = '\\' := by
          simp only [isSlash, Bool.or_eq_true, Bool.and_eq_true, decide_eq_true_eq] at hslash
          exact hslash.imp id And.right
        have hmem : c ∈ text := by
          rcases hmark with rfl | rfl
          · exact Percent.mem_of_mem_encodeText hc (by decide) (by decide)
          · exact Percent.mem_of_mem_encodeText hc (by decide) (by decide)
        rw [hwhole c hmem] at hslash
        cases hslash
  not_dot := hdot
  not_dotDot := hdotDot

end SchemeKind.Plain

/-- A plain segment is pushed as it stands. -/
theorem PathState.read_of_plain {kind : SchemeKind} (s : PathState) {segment : List Char}
    (h : kind.Plain segment) (dots : List (List Char) → List (List Char)) :
    s.read kind segment dots = s.push kind segment := by
  have hvisible : visible segment = segment := visible_eq_self h.isIgnored_eq_false
  have hencode : encodeSegment segment = segment := Percent.encodeText_of_clear h.clear
  unfold PathState.read
  rw [dividedDrive?_eq_none h.isIgnored_eq_false, ite_self]
  simp only [hvisible, hencode, h.not_dot, h.not_dotDot, Bool.false_eq_true, if_false]

/-- Where no drive letter can stand for the host, a segment is put on top. -/
theorem PathState.push_eq {kind : SchemeKind} {s : PathState} {segment : List Char}
    (h : kind = .file → s.ended = [] → isDriveLetter segment = false) :
    s.push kind segment = { s with ended := segment :: s.ended } := by
  unfold PathState.push
  refine if_neg fun hpush => ?_
  simp only [Bool.and_eq_true, decide_eq_true_eq, List.isEmpty_iff] at hpush
  rw [h hpush.1.1 hpush.1.2] at hpush
  exact Bool.false_ne_true hpush.2

/-- Plain segments are put on top of each other. -/
theorem readSegments_of_plain {kind : SchemeKind} {first : List Char} {others : List (List Char)}
    (hplain : ∀ segment ∈ first :: others, kind.Plain segment) {s : PathState}
    (h : kind = .file → s.ended = [] → isDriveLetter first = false) :
    readSegments kind s (first :: others) =
      { s with ended := (first :: others).reverse ++ s.ended } := by
  induction others generalizing first s with
  | nil =>
      rw [readSegments, PathState.last, PathState.read_of_plain s (hplain first (by simp)),
        PathState.push_eq h]
      rfl
  | cons next others ih =>
      rw [readSegments, PathState.segment, PathState.read_of_plain s (hplain first (by simp)),
        PathState.push_eq h,
        ih (fun segment hsegment => hplain segment (List.mem_cons_of_mem first hsegment))
          fun _ hnil => by cases hnil]
      · simp
      · simp

/-! ### What is read -/

/-- Whether what has been read is plain, apart from a drive letter at the start of a file's
path. -/
def PathState.Settled (kind : SchemeKind) (s : PathState) : Prop :=
  (∀ segment ∈ s.ended, kind.Plain segment) ∨
    kind = .file ∧ ∃ drive, isDriveLetter drive = true ∧ s.ended.getLast? = some drive

/-- A drive letter starts like one. -/
theorem startsWithDrive_of_isDriveLetter {segment : List Char} (h : isDriveLetter segment = true) :
    startsWithDrive segment = true := by
  unfold isDriveLetter at h
  split at h
  next => simpa [startsWithDrive, isDriveLetter] using h
  next => cases h

/-- Two dots leave no segment that was not there. -/
theorem mem_of_mem_takeBack {ended : List (List Char)} {segment : List Char}
    (h : segment ∈ takeBack ended) : segment ∈ ended := by
  cases ended with
  | nil => exact h
  | cons last before =>
      simp only [takeBack] at h
      split at h
      · exact h
      · exact List.mem_cons_of_mem last h

/-- Two dots do not take back a drive letter at the start. -/
theorem getLast?_takeBack {ended : List (List Char)} {drive : List Char}
    (hdrive : isDriveLetter drive = true) (hlast : ended.getLast? = some drive) :
    (takeBack ended).getLast? = some drive := by
  cases ended with
  | nil => exact hlast
  | cons last before =>
      simp only [takeBack]
      split
      next => exact hlast
      next hstarts =>
        cases before with
        | nil =>
            have hself : last = drive := by simpa using hlast
            exact absurd (startsWithDrive_of_isDriveLetter (hself ▸ hdrive)) hstarts
        | cons next before => rwa [List.getLast?_cons_cons] at hlast

/-- What two dots leave is settled. -/
theorem PathState.Settled.takeBack {kind : SchemeKind} {s : PathState} (h : s.Settled kind) :
    PathState.Settled kind { s with ended := takeBack s.ended } := by
  rcases h with hplain | ⟨hfile, drive, hdrive, hlast⟩
  · exact .inl fun segment hsegment => hplain segment (mem_of_mem_takeBack hsegment)
  · exact .inr ⟨hfile, drive, hdrive, getLast?_takeBack hdrive hlast⟩

/-- A plain segment on top is settled. -/
theorem PathState.Settled.cons {kind : SchemeKind} {s : PathState} (h : s.Settled kind)
    {segment : List Char} (hsegment : kind.Plain segment) :
    PathState.Settled kind { s with ended := segment :: s.ended } := by
  rcases h with hplain | ⟨hfile, drive, hdrive, hlast⟩
  · left
    intro other hother
    rcases List.mem_cons.mp hother with rfl | hother
    · exact hsegment
    · exact hplain other hother
  · exact .inr ⟨hfile, drive, hdrive, by simp [List.getLast?_cons, hlast]⟩

/-- A plain segment may be put on what is settled. -/
theorem PathState.Settled.push {kind : SchemeKind} {s : PathState} (h : s.Settled kind)
    {segment : List Char} (hsegment : kind.Plain segment) : (s.push kind segment).Settled kind := by
  unfold PathState.push
  split
  next hpush =>
    simp only [Bool.and_eq_true, decide_eq_true_eq] at hpush
    refine .inr ⟨hpush.1.1, _, ?_, rfl⟩
    have hdrive := hpush.2
    unfold isDriveLetter at hdrive
    split at hdrive
    next letter mark =>
      rw [Bool.and_eq_true] at hdrive
      simp [isDriveLetter, hdrive.1]
    next => cases hdrive
  next => exact h.cons hsegment

/-- **One segment.** Reading a segment leaves the path settled, whatever a dot segment leaves of
it that is settled. -/
theorem PathState.Settled.read {kind : SchemeKind} {s : PathState} (h : s.Settled kind)
    {raw : List Char} (hraw : ∀ c ∈ raw, isSlash kind c = false)
    {dots : List (List Char) → List (List Char)}
    (hdots : ∀ t : PathState, t.Settled kind →
      PathState.Settled kind { t with ended := dots t.ended }) :
    (s.read kind raw dots).Settled kind := by
  unfold PathState.read
  split
  next drive after hdivided =>
    -- Only a file's path has such a drive letter, and it stands at the start.
    rw [Option.ite_none_right_eq_some] at hdivided
    obtain ⟨hfile, hdrive⟩ := hdivided
    simp only [Bool.and_eq_true, decide_eq_true_eq] at hfile
    exact .inr ⟨hfile.1, drive, isDriveLetter_of_dividedDrive?_eq_some hdrive, rfl⟩
  next =>
    have hvisible : ∀ c ∈ visible raw, isSlash kind c = false := fun c hc =>
      hraw c (List.mem_filter.mp hc).1
    simp only
    split
    next => exact hdots _ h.takeBack
    next hdotDot =>
      split
      next => exact hdots s h
      next hdot =>
        exact h.push (.encodeSegment hvisible (Bool.eq_false_iff.mpr hdot)
          (Bool.eq_false_iff.mpr hdotDot))

/-- **All segments.** A path is settled when all of it has been read, and has a segment. -/
theorem PathState.Settled.readSegments {kind : SchemeKind} {parts : List (List Char)}
    (hparts : ∀ part ∈ parts, ∀ c ∈ part, isSlash kind c = false) {s : PathState}
    (h : s.Settled kind) : (readSegments kind s parts).Settled kind := by
  induction parts generalizing s with
  | nil => exact h
  | cons first others ih =>
      have hfirst := hparts first (List.mem_cons_self ..)
      cases others with
      | nil => exact h.read hfirst fun t ht => ht.cons .nil
      | cons next others =>
          exact ih (fun part hpart => hparts part (List.mem_cons_of_mem first hpart))
            (h.read hfirst fun t ht => ht)

/-- A path that a segment was put on is not empty. -/
theorem PathState.push_ne_nil (kind : SchemeKind) (s : PathState) (segment : List Char) :
    (s.push kind segment).ended ≠ [] := by
  unfold PathState.push
  split <;> simp

/-- The last segment leaves one at least. -/
theorem PathState.last_ne_nil (kind : SchemeKind) (s : PathState) (raw : List Char) :
    (s.last kind raw).ended ≠ [] := by
  unfold PathState.last PathState.read
  split
  next => simp
  next =>
    simp only
    split
    · simp
    · split
      · simp
      · exact PathState.push_ne_nil kind s _

/-- A path that was read has a segment at least. -/
theorem readSegments_ne_nil (kind : SchemeKind) (s : PathState) (first : List Char)
    (others : List (List Char)) : (readSegments kind s (first :: others)).ended ≠ [] := by
  induction others generalizing first s with
  | nil => exact PathState.last_ne_nil kind s first
  | cons next others ih => exact ih (s.segment kind first) next

/-! ### Paths -/

/-- Nothing is dropped in front of a segment that is not empty. -/
theorem dropEmpty_of_ne_nil {first : List Char} (h : first ≠ []) (others : List (List Char)) :
    dropEmpty (first :: others) = first :: others := by
  have hempty : first.isEmpty = false := by rwa [Bool.eq_false_iff, ne_eq, List.isEmpty_iff]
  rw [dropEmpty, List.dropWhile_cons, hempty, if_neg Bool.false_ne_true]

theorem dropEmpty_cons_nil (parts : List (List Char)) : dropEmpty ([] :: parts) = dropEmpty parts :=
  rfl

/-- One segment is left at least, if only an empty one. -/
theorem dropEmpty_ne_nil (parts : List (List Char)) : dropEmpty parts ≠ [] := by
  unfold dropEmpty
  split
  · simp
  · assumption

theorem dropEmpty_dropEmpty (parts : List (List Char)) :
    dropEmpty (dropEmpty parts) = dropEmpty parts := by
  induction parts with
  | nil => rfl
  | cons first others ih =>
      cases first with
      | nil => rwa [dropEmpty_cons_nil]
      | cons c rest => simp only [dropEmpty_of_ne_nil (List.cons_ne_nil c rest)]

/-- The segments that are left were there before, unless one empty segment is left of nothing
else. -/
theorem mem_of_mem_dropEmpty {parts : List (List Char)} {part : List Char}
    (h : part ∈ dropEmpty parts) : part = [] ∨ part ∈ parts := by
  unfold dropEmpty at h
  split at h
  · exact .inl (List.mem_singleton.mp h)
  · exact .inr ((List.dropWhile_suffix _).subset h)

/-- A path that is read as it stands, if it does not start with a drive letter. -/
structure SchemeKind.PlainPath (kind : SchemeKind) (parts : List (List Char)) : Prop where
  plain : ∀ segment ∈ parts, kind.Plain segment
  ne_nil : parts ≠ []
  kept : kind = .file → dropEmpty parts = parts

/-- The segments of a plain path are clear. -/
theorem SchemeKind.PlainPath.clear {kind : SchemeKind} {parts : List (List Char)}
    (h : kind.PlainPath parts) : ∀ segment ∈ parts, Percent.path.Clear segment :=
  fun segment hsegment => (h.plain segment hsegment).clear

/-- **What a path is read as.** It is plain, unless it starts with a drive letter. -/
theorem plainPath_of_readPath {kind : SchemeKind} {text : List Char}
    (h : kind = .file → ∀ first ∈ (readPath kind text).1.head?, isDriveLetter first = false) :
    kind.PlainPath (readPath kind text).1 := by
  have hsettled : (readSegments kind {} (splitAtAny (isSlash kind) text)).Settled kind :=
    PathState.Settled.readSegments (fun part hpart => ends_eq_false_of_mem_splitAtAny hpart)
      (.inl (by simp))
  have hne : (readSegments kind {} (splitAtAny (isSlash kind) text)).ended ≠ [] := by
    obtain ⟨first, others, hsplit⟩ := List.exists_cons_of_ne_nil
      (splitAtAny_ne_nil (isSlash kind) text)
    rw [hsplit]
    exact readSegments_ne_nil kind {} first others
  unfold readPath at h ⊢
  generalize readSegments kind {} (splitAtAny (isSlash kind) text) = s at h hsettled hne ⊢
  rcases hsettled with hplain | ⟨rfl, drive, hdrive, hlast⟩
  · have hreverse : ∀ segment ∈ s.ended.reverse, kind.Plain segment := fun segment hsegment =>
      hplain segment (List.mem_reverse.mp hsegment)
    by_cases hfile : kind = .file
    · simp only [hfile, if_true] at hreverse ⊢
      refine ⟨fun segment hsegment => ?_, dropEmpty_ne_nil _, fun _ => dropEmpty_dropEmpty _⟩
      rcases mem_of_mem_dropEmpty hsegment with rfl | hsegment
      · exact .nil
      · exact hreverse segment hsegment
    · simp only [hfile, if_false]
      exact ⟨hreverse, by simpa using hne, fun hkind => absurd hkind hfile⟩
  · -- A drive letter at the start is the first segment.
    have hhead : (dropEmpty s.ended.reverse).head? = some drive := by
      rw [← List.head?_reverse] at hlast
      obtain ⟨others, hreverse⟩ := List.head?_eq_some_iff.mp hlast
      have hne : drive ≠ [] := by
        rintro rfl
        cases hdrive
      rw [hreverse, dropEmpty_of_ne_nil hne, List.head?_cons]
    have hnot := h rfl drive (by simpa using hhead)
    rw [hdrive] at hnot
    cases hnot

/-- **Plain paths.** They are read as they stand. -/
theorem readPath_of_plain {kind : SchemeKind} {first : List Char} {others : List (List Char)}
    (h : kind.PlainPath (first :: others)) (hdrive : kind = .file → isDriveLetter first = false) :
    readPath kind (first ++ others.flatMap ('/' :: ·)) = (first :: others, true) := by
  have hsplit : splitAtAny (isSlash kind) (first ++ others.flatMap ('/' :: ·)) = first :: others :=
    splitAtAny_join (isSlash_slash kind) first others fun part hpart => (h.plain part hpart).whole
  unfold readPath
  rw [hsplit, readSegments_of_plain h.plain fun hfile _ => hdrive hfile]
  simp only [List.append_nil, List.reverse_reverse]
  split
  next hfile => rw [h.kept hfile]
  next => rfl

/-- Behind a slash a plain path of a file is read as it stands, drive letter or not. -/
theorem readPath_file_of_plain {first : List Char} {others : List (List Char)}
    (h : SchemeKind.file.PlainPath (first :: others)) :
    readPath .file ('/' :: (first ++ others.flatMap ('/' :: ·))) = (first :: others, true) := by
  have hplain : ∀ segment ∈ [] :: first :: others, SchemeKind.file.Plain segment := by
    intro segment hsegment
    rcases List.mem_cons.mp hsegment with rfl | hsegment
    · exact .nil
    · exact h.plain segment hsegment
  have hsplit : splitAtAny (isSlash .file) ('/' :: (first ++ others.flatMap ('/' :: ·))) =
      [] :: first :: others :=
    splitAtAny_join (isSlash_slash .file) [] (first :: others)
      fun part hpart => (hplain part hpart).whole
  unfold readPath
  rw [hsplit, readSegments_of_plain hplain fun _ _ => rfl]
  simp only [List.append_nil, List.reverse_reverse, if_true, dropEmpty_cons_nil, h.kept]

end PullDiagnostics.Url
