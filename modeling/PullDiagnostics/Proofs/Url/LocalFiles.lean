import PullDiagnostics.Proofs.FileTree.Names
import PullDiagnostics.Proofs.Url.RoundTrip

/-!
# URLs of local files

The URL of a path holds its names, each encoded as a segment of its own. Where the path goes up,
reading the URL takes the name before back, but for one that looks like a drive letter; so what is
read are names again, with a slash behind them if the path ended in two dots. Such a URL leads back
to the path that its names are, and unless it has that slash, this path has the same URL.

## Main results

* `plain_encodeName`: an encoded name is read as it stands.
* `exists_parse_ofPath?`: what the URL of a path is read as.
* `toPath?_bind_ofPath?`: the path of a local URL without a slash at its end has this URL.
-/

namespace PullDiagnostics.Url

open FilePath (IsName slash dot)

/-- A name as it stands in a path. -/
def encodeName (name : Bytes) : List Char :=
  Percent.encode Percent.pathSegment name

/-! ### Names -/

/-- Nothing but a letter becomes a letter in lower case, and nothing else changes. -/
theorem eq_of_toLower_eq {c d : Char} (h : c.toLower = d) (hd : d.isAlpha = false) : c = d := by
  cases hupper : c.isUpper with
  | false => rwa [Text.toLower_of_not_isUpper hupper] at h
  | true =>
      have hlower := Text.isLower_toLower hupper
      rw [h, (Bool.or_eq_false_iff.mp hd).2] at hlower
      cases hlower

/-- What is this letter in lower case is the letter in either case. -/
theorem eq_or_eq_of_toLower_eq {c : Char} (h : c.toLower = 'e') : c = 'e' ∨ c = 'E' := by
  cases hupper : c.isUpper with
  | false => exact .inl (by rwa [Text.toLower_of_not_isUpper hupper] at h)
  | true =>
      obtain ⟨n, hn, rfl⟩ := Text.exists_of_isUpper hupper
      clear hupper
      revert n
      decide

/-- What is taken for a dot stands for one. -/
theorem decode_append_of_isDot {segment : List Char} (h : isDot segment = true)
    (rest : List Char) : Percent.decode (segment ++ rest) = dot :: Percent.decode rest := by
  simp only [isDot, Bool.or_eq_true, beq_iff_eq, List.map_eq_cons_iff, List.map_eq_nil_iff] at h
  rcases h with ⟨c, _, rfl, hc, rfl⟩ | ⟨c, _, rfl, hc, d, _, rfl, hd, e, _, rfl, he, rfl⟩
  · obtain rfl := eq_of_toLower_eq hc (by decide)
    exact Percent.decode_cons (by decide) rest
  · obtain rfl := eq_of_toLower_eq hc (by decide)
    obtain rfl := eq_of_toLower_eq hd (by decide)
    rcases eq_or_eq_of_toLower_eq he with rfl | rfl
    · rfl
    · rfl

/-- A segment that is a dot stands for a dot, encoded or not. -/
theorem decode_of_isDot {segment : List Char} (h : isDot segment = true) :
    Percent.decode segment = [dot] := by
  have hdecode := decode_append_of_isDot h []
  rwa [List.append_nil] at hdecode

/-- What is taken for two dots stands for two. -/
theorem decode_of_isDotDot {segment : List Char} (h : isDotDot segment = true) :
    Percent.decode segment = [dot, dot] := by
  have hdots {a b : List Char} (ha : isDot (a.map Char.toLower) = true)
      (hb : isDot (b.map Char.toLower) = true) : Percent.decode (a ++ b) = [dot, dot] := by
    have hlower (text : List Char) : (text.map Char.toLower).map Char.toLower =
        text.map Char.toLower := by simp [Text.toLower_toLower]
    unfold isDot at ha hb
    rw [hlower] at ha hb
    rw [decode_append_of_isDot ha, decode_of_isDot hb]
  have hmem : segment.map Char.toLower ∈ [['.'] ++ ['.'], ['.'] ++ ['%', '2', 'e'],
      ['%', '2', 'e'] ++ ['.'], ['%', '2', 'e'] ++ ['%', '2', 'e']] := List.contains_iff_mem.mp h
  simp only [List.mem_cons, List.not_mem_nil, or_false, List.map_eq_append_iff] at hmem
  rcases hmem with ⟨a, b, rfl, ha, hb⟩ | ⟨a, b, rfl, ha, hb⟩ | ⟨a, b, rfl, ha, hb⟩ |
    ⟨a, b, rfl, ha, hb⟩
  all_goals exact hdots (ha ▸ by decide) (hb ▸ by decide)

theorem decode_encodeName (name : Bytes) : Percent.decode (encodeName name) = name :=
  Percent.decode_encode (by decide) name

/-- **Encoded names** are read as they stand. -/
theorem plain_encodeName {name : Bytes} (h : IsName name) :
    SchemeKind.file.Plain (encodeName name) where
  clear := Percent.clear_encode Percent.isOpen_path
    (fun _ hc => (Bool.or_eq_false_iff.mp hc).1) name
  whole := by
    intro c hc
    have hne (d : Char) (hd : Percent.pathSegment.holds d = true) (hpercent : d ≠ '%')
        (hdigit : ∀ n < 16, d ≠ Hex.upperDigit n) : c ≠ d := by
      rintro rfl
      exact Percent.not_mem_encode hd hpercent hdigit name hc
    simp [isSlash, hne '/' (by decide) (by decide) (by decide),
      hne '\\' (by decide) (by decide) (by decide)]
  not_dot := by
    refine Bool.eq_false_iff.mpr fun hdot => ?_
    have hname := decode_of_isDot hdot
    rw [decode_encodeName] at hname
    have hidle := h.not_idle
    rw [hname] at hidle
    cases hidle
  not_dotDot := by
    refine Bool.eq_false_iff.mpr fun hdots => h.ne_dots ?_
    rw [← decode_encodeName name, decode_of_isDotDot hdots]

/-- No name is encoded as nothing. -/
theorem encodeName_ne_nil {name : Bytes} (h : IsName name) : encodeName name ≠ [] := by
  intro hnil
  have hname := decode_encodeName name
  have hidle := h.not_idle
  rw [← hname, hnil] at hidle
  cases hidle

/-! ### Local paths -/

/-- The URL of a local file. -/
def localFile (parts : List (List Char)) : Url :=
  ⟨"file".toList, some localHost, .segments parts, none, none⟩

/-- The segments of a path that holds nothing but names, perhaps with a slash behind them. -/
inductive LocalPath : List (List Char) → Prop where
  | names {names : List Bytes} (h : ∀ name ∈ names, IsName name) (hne : names ≠ []) :
      LocalPath (names.map encodeName)
  | closed {names : List Bytes} (h : ∀ name ∈ names, IsName name) :
      LocalPath (names.map encodeName ++ [[]])

namespace LocalPath

/-- The path of the root. -/
theorem root : LocalPath [[]] :=
  @closed [] (by simp)

/-- Encoded names are read as they stand. -/
theorem plain_map {names : List Bytes} (h : ∀ name ∈ names, IsName name) :
    ∀ segment ∈ names.map encodeName, SchemeKind.file.Plain segment := by
  intro segment hsegment
  obtain ⟨name, hname, rfl⟩ := List.mem_map.mp hsegment
  exact plain_encodeName (h name hname)

/-- Encoded names are not dropped. -/
theorem dropEmpty_map_append {names : List Bytes} (h : ∀ name ∈ names, IsName name)
    (hne : names ≠ []) (rest : List (List Char)) :
    dropEmpty (names.map encodeName ++ rest) = names.map encodeName ++ rest := by
  obtain ⟨first, others, rfl⟩ := List.exists_cons_of_ne_nil hne
  exact dropEmpty_of_ne_nil (encodeName_ne_nil (h first (List.mem_cons_self ..))) _

/-- Local paths are read as they stand. -/
theorem plainPath {parts : List (List Char)} (h : LocalPath parts) :
    SchemeKind.file.PlainPath parts := by
  cases h with
  | @names names h hne =>
      refine ⟨plain_map h, by simpa using hne, fun _ => ?_⟩
      simpa using dropEmpty_map_append h hne []
  | @closed names h =>
      refine ⟨fun segment hsegment => ?_, by simp, fun _ => ?_⟩
      · rcases List.mem_append.mp hsegment with hsegment | hsegment
        · exact plain_map h segment hsegment
        · rw [List.mem_singleton.mp hsegment]
          exact .nil
      · by_cases hne : names = []
        · rw [hne]
          rfl
        · exact dropEmpty_map_append h hne [[]]

end LocalPath

/-- The URL of a local file is read as its path is. -/
theorem parse_write_localFile {first : List Char} {others : List (List Char)}
    (h : ∀ segment ∈ first :: others, Percent.path.Clear segment) :
    parse (localFile (first :: others)).write =
      .ok (localFile (readPath .file ('/' :: (first ++ others.flatMap ('/' :: ·)))).1) := by
  have hchars : ∀ c ∈ '/' :: (first ++ others.flatMap ('/' :: ·)),
      0x20 < c.toNat ∧ endsPath c = false := by
    intro c hc
    refine mem_segments h ?_
    rwa [List.flatMap_cons, List.cons_append]
  have hsplit : splitScheme fileMark = some ("file".toList, ['/', '/']) := rfl
  have hread := readFile_append (fun c hc => (hchars c hc).2) (readFileSlashes_cons _)
    (Prod.eta (readPath .file _)).symm (⟨by simp, by simp⟩ : SettledTail .file none none)
    "file".toList
  rw [ite_self, tailText, List.append_nil, List.append_nil] at hread
  have hvisible : ∀ c ∈ '/' :: '/' :: '/' :: (first ++ others.flatMap ('/' :: ·)),
      0x20 < c.toNat := by
    intro c hc
    rcases List.mem_cons.mp hc with rfl | hc
    · decide
    · rcases List.mem_cons.mp hc with rfl | hc
      · decide
      · exact (hchars c hc).1
  have hparse := parse_append_of_lt (SettledScheme.of_splitScheme hsplit) hvisible
  rw [localFile, write_segments]
  exact hparse.trans hread

/-! ### Reading the URL of a path -/

/-- Whether a segment is what a path says of a step: two dots, or an encoded name. -/
def IsStep (segment : List Char) : Prop :=
  segment = ['.', '.'] ∨ ∃ name, IsName name ∧ segment = encodeName name

/-- A step holds nothing that a path encodes. -/
theorem IsStep.clear {segment : List Char} (h : IsStep segment) : Percent.path.Clear segment := by
  rcases h with rfl | ⟨name, hname, rfl⟩
  · intro c hc
    obtain rfl : c = '.' := by simpa using hc
    exact ⟨by decide, by decide⟩
  · exact (plain_encodeName hname).clear

theorem IsStep.whole {segment : List Char} (h : IsStep segment) :
    ∀ c ∈ segment, isSlash .file c = false := by
  rcases h with rfl | ⟨name, hname, rfl⟩
  · intro c hc
    obtain rfl : c = '.' := by simpa using hc
    rfl
  · exact (plain_encodeName hname).whole

/-- A drive letter is a name as well. -/
theorem exists_encodeName_eq {letter : Char} (h : letter.isAlpha = true) :
    ∃ name, IsName name ∧ encodeName name = [letter, ':'] := by
  have hletters : ∀ n < 0x80, (Char.ofNat n).isAlpha = true →
      Percent.pathSegment.holds (Char.ofNat n) = false ∧ UInt8.ofNat n ≠ slash := by decide +kernel
  have hlt : letter.toNat < 0x80 := by
    have := Text.isAlpha_iff.mp h
    omega
  obtain ⟨hholds, hslash⟩ := hletters letter.toNat hlt (by rwa [Char.ofNat_toNat])
  rw [Char.ofNat_toNat] at hholds
  have hclear : Percent.pathSegment.Clear [letter, ':'] := by
    intro c hc
    rcases List.mem_cons.mp hc with rfl | hc
    · exact ⟨hlt, hholds⟩
    · rw [List.mem_singleton.mp hc]
      exact ⟨by decide, by decide⟩
  have hbytes : Utf8.encode [letter, ':'] = [UInt8.ofNat letter.toNat, 0x3A] :=
    Utf8.encode_of_lt fun c hc => (hclear c hc).1
  refine ⟨Utf8.encode [letter, ':'], ⟨?_, ?_, ?_⟩, Percent.encodeText_of_clear hclear⟩
  · rw [hbytes, List.mem_cons, not_or]
    exact ⟨Ne.symm hslash, by decide⟩
  · rw [hbytes]
    simp [FilePath.isIdle]
  · rw [hbytes]
    simp [dot]

/-- Whether what has been read of a path are names, on top of an empty segment or of nothing. -/
def PathState.Named (s : PathState) : Prop :=
  ∃ names : List Bytes, (∀ name ∈ names, IsName name) ∧
    (s.ended = names.map encodeName ∨ s.ended = names.map encodeName ++ [[]])

namespace PathState.Named

variable {s : PathState}

/-- Two dots leave names. -/
theorem takeBack (h : s.Named) : PathState.Named { s with ended := takeBack s.ended } := by
  obtain ⟨names, hnames, hended⟩ := h
  cases names with
  | nil =>
      refine ⟨[], by simp, .inl ?_⟩
      rcases hended with hended | hended
      · simp [hended, Url.takeBack]
      · simp [hended, Url.takeBack, startsWithDrive]
  | cons first others =>
      have hothers : ∀ name ∈ others, IsName name := fun name hname =>
        hnames name (List.mem_cons_of_mem first hname)
      -- What looks like a drive letter is not taken back.
      by_cases hdrive : startsWithDrive (encodeName first) = true
      · refine ⟨first :: others, hnames, hended.imp ?_ ?_⟩
        all_goals
          intro heq
          simp [heq, Url.takeBack, hdrive]
      · refine ⟨others, hothers, hended.imp ?_ ?_⟩
        all_goals
          intro heq
          simp [heq, Url.takeBack, hdrive]

/-- A name goes on top of the names. -/
theorem push (h : s.Named) {name : Bytes} (hname : IsName name) :
    (s.push .file (encodeName name)).Named := by
  obtain ⟨names, hnames, hended⟩ := h
  unfold PathState.push
  split
  next hdrive =>
    simp only [Bool.and_eq_true] at hdrive
    have hletter := hdrive.2
    unfold isDriveLetter at hletter
    split at hletter
    next letter mark heq =>
      rw [Bool.and_eq_true] at hletter
      obtain ⟨drive, hisName, hencode⟩ := exists_encodeName_eq hletter.1
      exact ⟨[drive], by simpa using hisName, .inl (by simp [heq, hencode])⟩
    next => cases hletter
  next =>
    refine ⟨name :: names, by simpa using ⟨hname, hnames⟩, hended.imp ?_ ?_⟩
    all_goals
      intro heq
      simp [heq]

/-- **One step.** A step leaves names of names; two dots may leave something on top of them. -/
theorem read (h : s.Named) {segment : List Char} (hsegment : IsStep segment)
    (dots : List (List Char) → List (List Char)) :
    ∃ t : PathState, t.Named ∧ (s.read .file segment dots = t ∨ segment = ['.', '.'] ∧
      s.read .file segment dots = { t with ended := dots t.ended }) := by
  rcases hsegment with rfl | ⟨name, hname, rfl⟩
  · refine ⟨_, h.takeBack, .inr ⟨rfl, ?_⟩⟩
    have hdivided : dividedDrive? ['.', '.'] = none := by decide
    have hdots : isDotDot (encodeSegment (visible ['.', '.'])) = true := by decide
    simp only [PathState.read, hdivided, ite_self, hdots, if_true]
  · exact ⟨_, h.push hname, .inl (PathState.read_of_plain s (plain_encodeName hname) dots)⟩

/-- **All steps.** They leave names, and two dots at the end leave an empty segment on top. -/
theorem readSegments {first : List Char} {others : List (List Char)}
    (hsteps : ∀ segment ∈ first :: others, IsStep segment) (h : s.Named) :
    ∃ t : PathState, t.Named ∧ ((readSegments .file s (first :: others)).ended = t.ended ∨
      (first :: others).getLast? = some ['.', '.'] ∧
        (readSegments .file s (first :: others)).ended = [] :: t.ended) := by
  induction others generalizing first s with
  | nil =>
      obtain ⟨t, ht, hread⟩ := h.read (hsteps first (by simp)) ([] :: ·)
      refine ⟨t, ht, hread.imp (fun heq => ?_) fun ⟨hdots, heq⟩ => ⟨by rw [hdots]; rfl, ?_⟩⟩
      all_goals rw [Url.readSegments, PathState.last, heq]
  | cons next others ih =>
      have hsegment : (s.segment .file first).Named := by
        obtain ⟨t, ht, hread⟩ := h.read (hsteps first (by simp)) id
        rw [PathState.segment, hread.elim id And.right]
        exact ht
      exact ih (fun segment hsegment => hsteps segment (List.mem_cons_of_mem first hsegment))
        hsegment

end PathState.Named

/-- Names are a local path, whatever empty segments are before them; it ends in no slash but that of
the root. -/
theorem LocalPath.dropEmpty_map {names : List Bytes} (h : ∀ name ∈ names, IsName name) :
    LocalPath (dropEmpty (names.map encodeName)) ∧
      ((dropEmpty (names.map encodeName)).getLast? = some [] →
        dropEmpty (names.map encodeName) = [[]]) := by
  by_cases hne : names = []
  · rw [hne]
    exact ⟨.root, fun _ => rfl⟩
  · have hall := dropEmpty_map_append h hne []
    rw [List.append_nil] at hall
    rw [hall]
    refine ⟨.names h hne, fun hlast => ?_⟩
    obtain ⟨name, hname, hnil⟩ := List.mem_map.mp (List.mem_of_getLast? hlast)
    exact absurd hnil (encodeName_ne_nil (h name hname))

/-- Names with a slash behind them are a local path. -/
theorem LocalPath.dropEmpty_map_concat {names : List Bytes} (h : ∀ name ∈ names, IsName name) :
    LocalPath (dropEmpty (names.map encodeName ++ [[]])) := by
  by_cases hne : names = []
  · rw [hne]
    exact .root
  · rw [dropEmpty_map_append h hne]
    exact .closed h

/-- **Steps.** The steps of a path are read as names, with a slash behind them at most where the
last step is two dots. -/
theorem localPath_readPath {first : List Char} {others : List (List Char)}
    (h : ∀ segment ∈ first :: others, IsStep segment) {parts : List (List Char)} {keeps : Bool}
    (hread : readPath .file ('/' :: (first ++ others.flatMap ('/' :: ·))) = (parts, keeps)) :
    LocalPath parts ∧ ((first :: others).getLast? ≠ some ['.', '.'] →
      parts.getLast? = some [] → parts = [[]]) := by
  have hsplit : splitAtAny (isSlash .file) ('/' :: (first ++ others.flatMap ('/' :: ·))) =
      [] :: first :: others := by
    refine splitAtAny_join (isSlash_slash .file) [] (first :: others) fun part hpart => ?_
    rcases List.mem_cons.mp hpart with rfl | hpart
    · simp
    · exact (h part hpart).whole
  -- The slash before the path leaves an empty segment at the bottom, where two dots can take it
  -- away; so the invariant is about names on top of such a segment or of nothing.
  have hslash : readSegments .file {} ([] :: first :: others) =
      readSegments .file ⟨[[]], true⟩ (first :: others) := rfl
  have hstart : PathState.Named ⟨[[]], true⟩ := ⟨[], by simp, .inr rfl⟩
  obtain ⟨t, ⟨names, hnames, ht⟩, hended⟩ := hstart.readSegments h
  have hreverse : ∀ name ∈ names.reverse, IsName name := fun name hname =>
    hnames name (List.mem_reverse.mp hname)
  unfold readPath at hread
  rw [hsplit, hslash] at hread
  simp only [if_true] at hread
  obtain ⟨rfl, -⟩ := Prod.mk.inj hread
  rcases hended with hended | ⟨hdots, hended⟩
  · have hparts : dropEmpty t.ended.reverse = dropEmpty (names.reverse.map encodeName) := by
      rcases ht with ht | ht
      · rw [ht, List.map_reverse]
      · rw [ht, List.reverse_append, List.reverse_singleton, List.singleton_append,
          dropEmpty_cons_nil, List.map_reverse]
    rw [hended, hparts]
    obtain ⟨hlocal, hopen⟩ := LocalPath.dropEmpty_map hreverse
    exact ⟨hlocal, fun _ => hopen⟩
  · have hparts : dropEmpty ([] :: t.ended).reverse =
        dropEmpty (names.reverse.map encodeName ++ [[]]) := by
      rcases ht with ht | ht
      · rw [ht, List.reverse_cons, List.map_reverse]
      · rw [ht, List.reverse_cons, List.reverse_append, List.reverse_singleton,
          List.singleton_append, List.cons_append, dropEmpty_cons_nil, List.map_reverse]
    rw [hended, hparts]
    exact ⟨LocalPath.dropEmpty_map_concat hreverse, fun hnot => absurd hdots hnot⟩

/-- The URL of a local path is read as it is written. -/
theorem LocalPath.settled {parts : List (List Char)} (h : LocalPath parts) :
    Settled (localFile parts) := by
  have hsplit : splitScheme fileMark = some ("file".toList, ['/', '/']) := rfl
  exact .file (.of_splitScheme hsplit) rfl settledFileHost_none h.plainPath
    (fun hname => absurd rfl hname) ⟨by simp, by simp⟩

/-- Two dots at the end of what is written of a path are two dots at its end. -/
theorem getLast?_components_of_dots {p : FilePath} (hp : p.isAbsolute = true)
    (h : (p.components.tail.map fun c =>
      Percent.encode Percent.pathSegment (componentText c)).getLast? = some ['.', '.']) :
    p.components.getLast? = some .parent := by
  rw [List.getLast?_map] at h
  obtain ⟨c, hc, hdots⟩ := Option.map_eq_some_iff.mp h
  obtain rfl : c = .parent := by
    rcases FilePath.eq_parent_or_isName hp (List.mem_of_getLast? hc) with rfl | ⟨name, hname, rfl⟩
    · rfl
    · have hnot := (plain_encodeName hname).not_dotDot
      rw [show encodeName name = ['.', '.'] from hdots] at hnot
      cases hnot
  rw [FilePath.components_of_isAbsolute hp, List.tail_cons] at hc
  rw [FilePath.components_of_isAbsolute hp, List.getLast?_cons, hc]
  rfl

/-- What is written of an absolute path are steps. -/
theorem isStep_of_isAbsolute {p : FilePath} (hp : p.isAbsolute = true) :
    ∀ segment ∈ p.components.tail.map fun c => Percent.encode Percent.pathSegment (componentText c),
      IsStep segment := by
  intro segment hsegment
  obtain ⟨c, hc, rfl⟩ := List.mem_map.mp hsegment
  rcases FilePath.eq_parent_or_isName hp hc with rfl | ⟨name, hname, rfl⟩
  · exact .inl rfl
  · exact .inr ⟨name, hname, rfl⟩

/-- **The URL of a path** is read as the URL of names, with a slash behind them at most where the
path ends in two dots. -/
theorem exists_parse_ofPath? {p : FilePath} {u : Url} (h : ofPath? p = some u) :
    ∃ parts, LocalPath parts ∧ parse u.write = .ok (localFile parts) ∧
      (p.components.getLast? ≠ some .parent → parts.getLast? = some [] → parts = [[]]) := by
  unfold ofPath? at h
  rw [Option.ite_none_right_eq_some] at h
  obtain ⟨habsolute, hu⟩ := h
  have hsteps := isStep_of_isAbsolute habsolute
  cases hparts : p.components.tail.map fun c =>
      Percent.encode Percent.pathSegment (componentText c) with
  | nil =>
      rw [hparts] at hu
      obtain rfl := Option.some.inj hu
      exact ⟨[[]], .root, parse_write LocalPath.root.settled, fun _ _ => rfl⟩
  | cons first others =>
      have hlast : p.components.getLast? ≠ some .parent →
          (first :: others).getLast? ≠ some ['.', '.'] := fun hparent hdots =>
        hparent (getLast?_components_of_dots habsolute (hparts ▸ hdots))
      rw [hparts] at hu hsteps
      obtain rfl := Option.some.inj hu
      obtain ⟨hlocal, hopen⟩ := localPath_readPath hsteps (Prod.eta _).symm
      exact ⟨_, hlocal, parse_write_localFile fun segment hsegment =>
        (hsteps segment hsegment).clear, fun hparent => hopen (hlast hparent)⟩

/-! ### Back to the path -/

/-- At most a slash is added behind a drive letter. -/
theorem closeDrive_eq (bytes : Bytes) :
    closeDrive bytes = bytes ∨ closeDrive bytes = bytes ++ [slash] := by
  unfold closeDrive
  split
  next =>
    split
    · exact .inr rfl
    · exact .inl rfl
  next => exact .inl rfl

theorem isAbsolute_closeDrive {bytes : Bytes} (h : (FilePath.mk bytes).isAbsolute = true) :
    (FilePath.mk (closeDrive bytes)).isAbsolute = true := by
  rcases closeDrive_eq bytes with hclose | hclose
  · rwa [hclose]
  · rw [hclose]
    exact FilePath.isAbsolute_append h [slash]

/-- The slash behind a drive letter says nothing. -/
theorem components_closeDrive {bytes : Bytes} (h : (FilePath.mk bytes).isAbsolute = true) :
    (FilePath.mk (closeDrive bytes)).components = (FilePath.mk bytes).components := by
  rcases closeDrive_eq bytes with hclose | hclose
  · rw [hclose]
  · rw [hclose, FilePath.components_append_slash h]

/-- The path of a URL is absolute. -/
theorem isAbsolute_of_toPath? {u : Url} {p : FilePath} (h : toPath? u = some p) :
    p.isAbsolute = true := by
  unfold toPath? at h
  split at h
  next => cases h
  next => cases h
  next parts hne _ =>
    simp only [Option.ite_none_right_eq_some] at h
    obtain ⟨-, hp⟩ := h
    obtain rfl := Option.some.inj hp
    have hparts : parts.map Percent.decode ≠ [] := by simpa using hne
    have habsolute := FilePath.isAbsolute_flatMap hparts
    rw [List.flatMap_map] at habsolute
    exact isAbsolute_closeDrive habsolute

/-- Encoded names are read back as the path of a file. -/
theorem toPath?_localFile {names : List Bytes} (hne : names ≠ []) :
    toPath? (localFile (names.map encodeName)) =
      some ⟨closeDrive (names.flatMap (slash :: ·))⟩ := by
  obtain ⟨first, others, rfl⟩ := List.exists_cons_of_ne_nil hne
  simp [toPath?, localFile, localHost, List.flatMap_map, decode_encodeName]

/-- The URL of a path that says nothing but names. -/
theorem ofPath?_of_components {p : FilePath} (hp : p.isAbsolute = true) {names : List Bytes}
    (hne : names ≠ []) (h : p.components = .root :: names.map .name) :
    ofPath? p = some (localFile (names.map encodeName)) := by
  have hparts : (p.components.tail.map fun c =>
      Percent.encode Percent.pathSegment (componentText c)) = names.map encodeName := by
    rw [h, List.tail_cons, List.map_map]
    rfl
  have hempty : (names.map encodeName).isEmpty = false := by simpa using hne
  simp only [ofPath?, hp, if_true, hparts, hempty, Bool.false_eq_true, if_false]
  rfl

/-- **There and back.** The path of a local URL has this URL, unless it ends in a slash that is not
the root. -/
theorem LocalPath.toPath?_bind_ofPath? {parts : List (List Char)} (h : LocalPath parts)
    (hends : parts.getLast? = some [] → parts = [[]]) :
    (toPath? (localFile parts)).bind ofPath? = some (localFile parts) := by
  cases h with
  | @names names hnames hne =>
      have habsolute := FilePath.isAbsolute_flatMap hne
      rw [toPath?_localFile hne, Option.bind_some]
      refine ofPath?_of_components (isAbsolute_closeDrive habsolute) hne ?_
      rw [components_closeDrive habsolute, FilePath.components_flatMap hnames hne]
  | @closed names hnames =>
      rw [hends (by simp)]
      rfl

end PullDiagnostics.Url
