import PullDiagnostics.Proofs.Url.Authority
import PullDiagnostics.Proofs.Url.Ends
import PullDiagnostics.Proofs.Url.Files

/-!
# URLs that are read again

A URL that was read is written in a text that leads back to it, part by part: the scheme ends at the
first colon, the authority where the path starts, the path at a question mark or a number sign, and
none of these marks stands in the part before it. There are two exceptions. A host before a path
that starts with a drive letter gives way to the drive letter when the text is read, and a host that
takes too long a text in ASCII is refused.

## Main results

* `parse_write`: a settled URL is read as it is written.
* `settled_of_parse`: a URL that was read is settled, unless its path starts with a drive letter or
  its host is refused.
-/

namespace PullDiagnostics.Url

/-! ### Paths between an authority and a tail -/

/-- Segments hold no blank, no control and nothing that ends a path. -/
theorem mem_segments {parts : List (List Char)}
    (h : ∀ segment ∈ parts, Percent.path.Clear segment) {c : Char}
    (hc : c ∈ parts.flatMap ('/' :: ·)) : 0x20 < c.toNat ∧ endsPath c = false := by
  obtain ⟨segment, hsegment, hc⟩ := List.mem_flatMap.mp hc
  rcases List.mem_cons.mp hc with rfl | hc
  · decide
  · have hclear := h segment hsegment
    have hquestion : c ≠ '?' := hclear.ne hc (by decide)
    have hsharp : c ≠ '#' := hclear.ne hc (by decide)
    refine ⟨hclear.of_add.lt_toNat (by decide) c hc, ?_⟩
    simp [endsPath, hquestion, hsharp]

/-- **Behind the slashes.** An authority, a path and a tail are read as they are written. -/
theorem readAfterSlashes_write {kind : SchemeKind} {a : Authority} (ha : a.Settled kind)
    {parts : List (List Char)} (hfile : kind ≠ .file)
    (hparts : kind.PlainPath parts ∨ kind.isSpecial = false ∧ parts = [])
    {query fragment : Option (List Char)} (htail : SettledTail kind query fragment)
    (scheme : List Char) :
    readAfterSlashes kind scheme
        (a.write ++ (parts.flatMap ('/' :: ·) ++ tailText query fragment)) =
      .ok ⟨scheme, some a, .segments parts, query, fragment⟩ := by
  have hslash : endsAuthority kind '/' = true := by simp [endsAuthority, isSlash]
  have ha' : ∀ c ∈ a.write, endsAuthority kind c = false := by
    intro c hc
    obtain ⟨-, hslash, hback, hquestion, hsharp⟩ := ha.mem_write hc
    simp [endsAuthority, isSlash, endsPath, hslash, hback, hquestion, hsharp]
  have hauthority : (a.write ++ (parts.flatMap ('/' :: ·) ++ tailText query fragment)).takeWhile
      (!endsAuthority kind ·) = a.write := by
    cases parts with
    | nil =>
        exact takeWhile_append_tailText (by simp [endsAuthority, endsPath])
          (by simp [endsAuthority, endsPath]) ha' query fragment
    | cons first others =>
        rw [List.takeWhile_append_of_pos fun c hc => by rw [ha' c hc]; rfl]
        simp [hslash]
  have hpath : (parts.flatMap ('/' :: ·) ++ tailText query fragment).takeWhile (!endsPath ·) =
      parts.flatMap ('/' :: ·) := by
    refine takeWhile_append_tailText (by decide) (by decide) (fun c hc => ?_) query fragment
    rcases hparts with hplain | ⟨-, rfl⟩
    · exact (mem_segments hplain.clear hc).2
    · cases hc
  unfold readAfterSlashes
  simp only [hauthority, List.drop_left, readAuthority_write ha, hpath, bind, Except.bind, pure,
    Except.pure]
  cases parts with
  | nil =>
      rcases hparts with hplain | ⟨hspecial, -⟩
      · exact absurd rfl hplain.ne_nil
      · simp only [List.flatMap_nil, hspecial, Bool.false_eq_true, if_false]
        exact congrArg _ (finish_tailText htail scheme (some a) _)
  | cons first others =>
      rcases hparts with hplain | ⟨-, hnil⟩
      · have hread := readPath_of_plain hplain fun hkind => absurd hkind hfile
        simp only [List.flatMap_cons, List.cons_append, hread]
        exact congrArg _ (finish_tailText htail scheme (some a) _)
      · cases hnil

/-! ### Files -/

/-- Whether the host of a file leads back to itself. -/
structure SettledFileHost (h : Host) : Prop where
  read : readFileHost h.write = .ok h
  chars : ∀ c ∈ h.write, Host.isHostChar c = true
  not_drive : isDriveLetter h.write = false

/-- A file without a host leads back to itself. -/
theorem settledFileHost_none : SettledFileHost (.name []) :=
  ⟨rfl, by simp [Host.write], rfl⟩

/-- The host of a file is settled, if it is not refused where it is written. -/
theorem settledFileHost_of_readFileHost {text : List Char} {h : Host}
    (hread : readFileHost text = .ok h)
    (hhost : h ≠ .name [] → ∃ again, Host.parseSpecial h.write = .ok again) :
    SettledFileHost h := by
  unfold readFileHost at hread
  split at hread
  next =>
    obtain rfl := Except.ok.inj hread
    exact settledFileHost_none
  next =>
    simp only [bind, Except.bind, pure, Except.pure] at hread
    split at hread
    next => cases hread
    next found hfound =>
      obtain ⟨hne, hsettled⟩ := Host.settled_of_parseSpecial hfound
      split at hread
      next =>
        obtain rfl := Except.ok.inj hread
        exact settledFileHost_none
      next hlocal =>
        obtain rfl := Except.ok.inj hread
        obtain ⟨again, hagain⟩ := hhost hne
        have hsettled := hsettled again hagain
        refine ⟨?_, hsettled.chars, hsettled.not_drive⟩
        have hnonempty : found.write.isEmpty = false := by
          cases hwrite : found.write with
          | nil =>
              have hparse := hsettled.parse_write
              rw [hwrite] at hparse
              cases hparse
          | cons => rfl
        simp only [readFileHost, hnonempty, Bool.false_eq_true, if_false, hsettled.parse_write,
          bind, Except.bind, pure, Except.pure, if_neg hlocal]

/-- A host that is read with a file leads back to itself, if it is not refused as written. -/
theorem settledFileHost_of_readFileSlashes {text path : List Char} {h : Host}
    (hread : readFileSlashes text = .ok (h, path))
    (hagain : h ≠ .name [] → ∃ again, Host.parseSpecial h.write = .ok again) :
    SettledFileHost h := by
  unfold readFileSlashes at hread
  simp only [bind, Except.bind, pure, Except.pure] at hread
  split at hread
  next =>
    obtain ⟨rfl, -⟩ := Prod.mk.inj (Except.ok.inj hread)
    exact settledFileHost_none
  next =>
    split at hread
    next => cases hread
    next host hhost =>
      obtain ⟨rfl, -⟩ := Prod.mk.inj (Except.ok.inj hread)
      exact settledFileHost_of_readFileHost hhost hagain

/-- The host of a file is read as it is written; where there is none, the path keeps its slash. -/
theorem readFileSlashes_write {host : Host} (h : SettledFileHost host) (rest : List Char) :
    readFileSlashes (host.write ++ '/' :: rest) =
      .ok (host, if host = .name [] then '/' :: rest else rest) := by
  have hraw : (host.write ++ '/' :: rest).takeWhile (!isSlash .file ·) = host.write := by
    rw [List.takeWhile_append_of_pos fun c hc => by
      rw [(Host.isHostChar_spec (h.chars c hc)).2.2]; rfl]
    simp [isSlash]
  have hvisible : visible host.write = host.write := visible_eq_self fun c hc =>
    isIgnored_eq_false_of_le (Nat.le_of_lt (Host.isHostChar_spec (h.chars c hc)).1)
  simp only [readFileSlashes, hraw, hvisible, h.not_drive, Bool.false_eq_true, if_false, h.read,
    bind, Except.bind, pure, Except.pure, List.drop_left, List.tail_cons]

/-- Two slashes, then a host and a path, then the tail. -/
theorem readFile_append {rest path : List Char} (hends : ∀ c ∈ rest, endsPath c = false)
    {host : Host} (hslashes : readFileSlashes rest = .ok (host, path))
    {parts : List (List Char)} {keeps : Bool} (hpath : readPath .file path = (parts, keeps))
    {query fragment : Option (List Char)} (htail : SettledTail .file query fragment)
    (scheme : List Char) :
    readFile scheme ('/' :: '/' :: rest ++ tailText query fragment) =
      .ok ⟨scheme, some { host := if keeps = true then host else .name [] }, .segments parts,
        query, fragment⟩ := by
  have hends' : ∀ c ∈ '/' :: '/' :: rest, endsPath c = false := by
    intro c hc
    rcases List.mem_cons.mp hc with rfl | hc
    · decide
    · rcases List.mem_cons.mp hc with rfl | hc
      · decide
      · exact hends c hc
  have hvisible : visible (tailText query fragment) = tailText query fragment :=
    visible_eq_self fun c hc => isIgnored_eq_false_of_le (Nat.le_of_lt (htail.lt_toNat c hc))
  have hdrop : ('/' :: '/' :: rest ++ tailText query fragment).drop ('/' :: '/' :: rest).length =
      tailText query fragment := List.drop_left
  unfold readFile
  rw [takeWhile_append_tailText (by decide) (by decide) hends' query fragment]
  simp only [hdrop, hvisible, afterSlash?_cons, hslashes, bind, Except.bind, pure, Except.pure,
    hpath]
  exact congrArg _ (finish_tailText htail scheme _ _)

/-- **Files.** A host, a path and a tail are read as they are written, unless a drive letter takes
the place of the host. -/
theorem readFile_write {host : Host} (hhost : SettledFileHost host) {parts : List (List Char)}
    (hparts : SchemeKind.file.PlainPath parts)
    (hdrive : host ≠ .name [] → ∀ first ∈ parts.head?, isDriveLetter first = false)
    {query fragment : Option (List Char)} (htail : SettledTail .file query fragment)
    (scheme : List Char) :
    readFile scheme
        ('/' :: '/' :: (host.write ++ (parts.flatMap ('/' :: ·) ++ tailText query fragment))) =
      .ok ⟨scheme, some { host := host }, .segments parts, query, fragment⟩ := by
  obtain ⟨first, others, rfl⟩ := List.exists_cons_of_ne_nil hparts.ne_nil
  have hends : ∀ c ∈ host.write ++ (first :: others).flatMap ('/' :: ·), endsPath c = false := by
    intro c hc
    rcases List.mem_append.mp hc with hc | hc
    · exact (Host.isHostChar_spec (hhost.chars c hc)).2.1
    · exact (mem_segments hparts.clear hc).2
  have hpath : readPath .file (if host = .name [] then
        '/' :: (first ++ others.flatMap ('/' :: ·)) else first ++ others.flatMap ('/' :: ·)) =
      (first :: others, true) := by
    split
    next => exact readPath_file_of_plain hparts
    next hname => exact readPath_of_plain hparts fun _ => hdrive hname first rfl
  have hread := readFile_append hends (readFileSlashes_write hhost _) hpath htail scheme
  rwa [List.cons_append, List.cons_append, List.append_assoc] at hread

/-! ### Other paths -/

/-- One slash, then a path, then the tail. -/
theorem readOther_append {rest : List Char} (hends : ∀ c ∈ rest, endsPath c = false)
    (hslash : rest.head? ≠ some '/') {query fragment : Option (List Char)}
    (htail : SettledTail .other query fragment) (scheme : List Char) :
    readOther scheme ('/' :: (rest ++ tailText query fragment)) =
      .ok ⟨scheme, none, .segments (readPath .other rest).1, query, fragment⟩ := by
  have htext : (rest ++ tailText query fragment).head? ≠ some '/' := head?_append_tailText hslash
  have hdrop : (rest ++ tailText query fragment).drop rest.length = tailText query fragment :=
    List.drop_left
  unfold readOther
  split
  next heq =>
    rw [(List.cons.inj heq).2] at htext
    exact absurd rfl htext
  next heq =>
    obtain rfl := (List.cons.inj heq).2
    simp only [takeWhile_append_tailText (by decide) (by decide) hends query fragment, hdrop]
    exact congrArg _ (finish_tailText htail scheme none _)
  next hnot => exact absurd rfl (hnot _)

/-- A dot at the start of a path is dropped. -/
theorem readPath_dot {first : List Char} {others : List (List Char)}
    (h : SchemeKind.other.PlainPath (first :: others)) :
    readPath .other ('.' :: '/' :: (first ++ others.flatMap ('/' :: ·))) =
      (first :: others, true) := by
  have hsplit : splitAtAny (isSlash .other) ('.' :: '/' :: (first ++ others.flatMap ('/' :: ·))) =
      ['.'] :: first :: others := by
    refine splitAtAny_join (isSlash_slash .other) ['.'] (first :: others) fun part hpart => ?_
    rcases List.mem_cons.mp hpart with rfl | hpart
    · intro c hc
      rw [List.mem_singleton.mp hc]
      rfl
    · exact (h.plain part hpart).whole
  have hdot : readSegments .other {} (['.'] :: first :: others) =
      readSegments .other {} (first :: others) := rfl
  unfold readPath
  rw [hsplit, hdot, readSegments_of_plain h.plain fun hfile => by cases hfile]
  simp

/-- A path that starts with one slash is read as it is written. -/
theorem readOther_single {first : List Char} {others : List (List Char)}
    (hparts : SchemeKind.other.PlainPath (first :: others))
    (hslash : (first ++ others.flatMap ('/' :: ·)).head? ≠ some '/')
    {query fragment : Option (List Char)} (htail : SettledTail .other query fragment)
    (scheme : List Char) :
    readOther scheme ((first :: others).flatMap ('/' :: ·) ++ tailText query fragment) =
      .ok ⟨scheme, none, .segments (first :: others), query, fragment⟩ := by
  have hends : ∀ c ∈ first ++ others.flatMap ('/' :: ·), endsPath c = false := by
    intro c hc
    refine (mem_segments hparts.clear ?_).2
    rw [List.flatMap_cons, List.cons_append]
    exact List.mem_cons_of_mem _ hc
  have hread := readOther_append hends hslash htail scheme
  rwa [readPath_of_plain hparts fun hfile => by cases hfile] at hread

/-- A path that starts with two slashes is read as it is written behind a dot, which keeps them from
being taken for those of a host. -/
theorem readOther_doubled {next : List Char} {others : List (List Char)}
    (hparts : SchemeKind.other.PlainPath ([] :: next :: others))
    {query fragment : Option (List Char)} (htail : SettledTail .other query fragment)
    (scheme : List Char) :
    readOther scheme ('/' :: '.' :: (([] :: next :: others).flatMap ('/' :: ·) ++
        tailText query fragment)) =
      .ok ⟨scheme, none, .segments ([] :: next :: others), query, fragment⟩ := by
  have hends : ∀ c ∈ '.' :: ([] :: next :: others).flatMap ('/' :: ·), endsPath c = false := by
    intro c hc
    rcases List.mem_cons.mp hc with rfl | hc
    · decide
    · exact (mem_segments hparts.clear hc).2
  have hpath : readPath .other ('.' :: ([] :: next :: others).flatMap ('/' :: ·)) =
      ([] :: next :: others, true) := readPath_dot hparts
  have hread := readOther_append hends (by simp) htail scheme
  rwa [hpath] at hread

/-- A path without a host before it is read as it is written. -/
theorem readOther_rooted {parts : List (List Char)} (hparts : SchemeKind.other.PlainPath parts)
    {query fragment : Option (List Char)} (htail : SettledTail .other query fragment)
    (scheme : List Char) :
    readOther scheme (writeAuthority ⟨scheme, none, .segments parts, query, fragment⟩ ++
        (parts.flatMap ('/' :: ·) ++ tailText query fragment)) =
      .ok ⟨scheme, none, .segments parts, query, fragment⟩ := by
  cases parts with
  | nil => exact absurd rfl hparts.ne_nil
  | cons first others =>
      cases first with
      | nil =>
          cases others with
          | nil => exact readOther_single hparts (by simp) htail scheme
          | cons next others => exact readOther_doubled hparts htail scheme
      | cons c rest =>
          refine readOther_single hparts (fun hhead => ?_) htail scheme
          have hwhole := (hparts.plain _ (List.mem_cons_self ..)).whole c (List.mem_cons_self ..)
          rw [Option.some.inj hhead, isSlash_slash] at hwhole
          cases hwhole

/-- Text that does not start with a slash is read as it is written. -/
theorem readOther_flat {text : List Char} (hclear : Percent.controls.Clear text)
    (hends : ∀ c ∈ text, endsPath c = false) (hslash : text.head? ≠ some '/')
    {query fragment : Option (List Char)} (htail : SettledTail .other query fragment)
    (scheme : List Char) :
    readOther scheme (text ++ tailText query fragment) =
      .ok ⟨scheme, none, .flat text, query, fragment⟩ := by
  have htext : (text ++ tailText query fragment).head? ≠ some '/' := head?_append_tailText hslash
  have hpath := takeWhile_append_tailText (by decide) (by decide) hends query fragment
  have hdrop : (text ++ tailText query fragment).drop text.length = tailText query fragment :=
    List.drop_left
  unfold readOther
  split
  next heq =>
    rw [heq] at htext
    exact absurd rfl htext
  next heq =>
    rw [heq] at htext
    exact absurd rfl htext
  next =>
    simp only [hpath, hdrop, Percent.encodeText_of_clear hclear]
    exact congrArg _ (finish_tailText htail scheme none _)

/-! ### Whole URLs -/

/-- Whether a URL leads back to itself. -/
inductive Settled : Url → Prop where
  /-- With a host, and perhaps a path. -/
  | hosted {scheme : List Char} {a : Authority} {parts : List (List Char)}
      {query fragment : Option (List Char)} (hscheme : SettledScheme scheme)
      (hfile : schemeKind scheme ≠ .file) (ha : a.Settled (schemeKind scheme))
      (hparts : (schemeKind scheme).PlainPath parts ∨
        (schemeKind scheme).isSpecial = false ∧ parts = [])
      (htail : SettledTail (schemeKind scheme) query fragment) :
      Settled ⟨scheme, some a, .segments parts, query, fragment⟩
  /-- With a path that starts with a slash. -/
  | rooted {scheme : List Char} {parts : List (List Char)} {query fragment : Option (List Char)}
      (hscheme : SettledScheme scheme) (hother : schemeKind scheme = .other)
      (hparts : SchemeKind.other.PlainPath parts) (htail : SettledTail .other query fragment) :
      Settled ⟨scheme, none, .segments parts, query, fragment⟩
  /-- With any other text. -/
  | flat {scheme text : List Char} {query fragment : Option (List Char)}
      (hscheme : SettledScheme scheme) (hother : schemeKind scheme = .other)
      (hclear : Percent.controls.Clear text) (hends : ∀ c ∈ text, endsPath c = false)
      (hslash : text.head? ≠ some '/')
      (hblank : query = none → fragment = none → text.getLast? ≠ some ' ')
      (htail : SettledTail .other query fragment) :
      Settled ⟨scheme, none, .flat text, query, fragment⟩
  /-- With the path of a file, perhaps of a host. -/
  | file {scheme : List Char} {host : Host} {parts : List (List Char)}
      {query fragment : Option (List Char)} (hscheme : SettledScheme scheme)
      (hfile : schemeKind scheme = .file) (hhost : SettledFileHost host)
      (hparts : SchemeKind.file.PlainPath parts)
      (hdrive : host ≠ .name [] → ∀ first ∈ parts.head?, isDriveLetter first = false)
      (htail : SettledTail .file query fragment) :
      Settled ⟨scheme, some { host := host }, .segments parts, query, fragment⟩

/-- The scheme of a settled URL is settled. -/
theorem Settled.scheme {u : Url} (h : Settled u) : SettledScheme u.scheme := by
  cases h <;> assumption

/-- A URL is written part by part, the query and the fragment last. -/
theorem write_eq (u : Url) :
    u.write = u.scheme ++ ':' :: (u.writeAuthority ++ (u.path.write ++
      tailText u.query u.fragment)) := by
  rw [write, List.append_assoc, List.append_assoc]
  rfl

/-- What stands for a missing host holds no blank and no control. -/
theorem lt_toNat_of_mem_writeAuthority {u : Url} (h : u.authority = none) {c : Char}
    (hc : c ∈ u.writeAuthority) : 0x20 < c.toNat := by
  unfold writeAuthority at hc
  rw [h] at hc
  simp only at hc
  split at hc
  next =>
    simp only [List.mem_cons, List.not_mem_nil, or_false] at hc
    rcases hc with rfl | rfl <;> decide
  next => cases hc

section Write

variable {scheme : List Char} {query fragment : Option (List Char)}

/-- A URL with a host. -/
theorem parse_write_hosted {a : Authority} {parts : List (List Char)}
    (hscheme : SettledScheme scheme) (hfile : schemeKind scheme ≠ .file)
    (ha : a.Settled (schemeKind scheme))
    (hparts : (schemeKind scheme).PlainPath parts ∨
      (schemeKind scheme).isSpecial = false ∧ parts = [])
    (htail : SettledTail (schemeKind scheme) query fragment) :
    parse (write ⟨scheme, some a, .segments parts, query, fragment⟩) =
      .ok ⟨scheme, some a, .segments parts, query, fragment⟩ := by
  have hclear : ∀ segment ∈ parts, Percent.path.Clear segment := by
    rcases hparts with hplain | ⟨-, rfl⟩
    · exact hplain.clear
    · simp
  have hread := readAfterSlashes_write ha hfile hparts htail scheme
  rw [write_eq, parse_append_of_lt hscheme]
  · cases hkind : schemeKind scheme with
    | file => exact absurd hkind hfile
    | special port =>
        rw [hkind] at hread ha
        have hdrop := ha.dropWhile_isSlash rfl
          (parts.flatMap ('/' :: ·) ++ tailText query fragment)
        simp only [writeAuthority, UrlPath.write, List.cons_append]
        rw [List.dropWhile_cons, if_pos (isSlash_slash _), List.dropWhile_cons,
          if_pos (isSlash_slash _), hdrop]
        exact hread
    | other =>
        rw [hkind] at hread
        exact hread
  · intro c hc
    simp only [writeAuthority, UrlPath.write, List.mem_append, List.mem_cons] at hc
    rcases hc with (rfl | rfl | hc) | hc | hc
    · decide
    · decide
    · exact (ha.mem_write hc).1
    · exact (mem_segments hclear hc).1
    · exact htail.lt_toNat c hc

/-- A URL with a path that starts with a slash. -/
theorem parse_write_rooted {parts : List (List Char)} (hscheme : SettledScheme scheme)
    (hother : schemeKind scheme = .other) (hparts : SchemeKind.other.PlainPath parts)
    (htail : SettledTail .other query fragment) :
    parse (write ⟨scheme, none, .segments parts, query, fragment⟩) =
      .ok ⟨scheme, none, .segments parts, query, fragment⟩ := by
  rw [write_eq, parse_append_of_lt hscheme]
  · simp only [hother]
    exact readOther_rooted hparts htail scheme
  · intro c hc
    simp only [UrlPath.write, List.mem_append] at hc
    rcases hc with hc | hc | hc
    · exact lt_toNat_of_mem_writeAuthority rfl hc
    · exact (mem_segments hparts.clear hc).1
    · exact htail.lt_toNat c hc

/-- A URL with any other text. A blank in it is kept, but one at the end of the URL does not
count. -/
theorem parse_write_flat {text : List Char} (hscheme : SettledScheme scheme)
    (hother : schemeKind scheme = .other) (hclear : Percent.controls.Clear text)
    (hends : ∀ c ∈ text, endsPath c = false) (hslash : text.head? ≠ some '/')
    (hblank : query = none → fragment = none → text.getLast? ≠ some ' ')
    (htail : SettledTail .other query fragment) :
    parse (write ⟨scheme, none, .flat text, query, fragment⟩) =
      .ok ⟨scheme, none, .flat text, query, fragment⟩ := by
  rw [write_eq, parse_append hscheme]
  · simp only [hother]
    exact readOther_flat hclear hends hslash htail scheme
  · intro c hc
    simp only [writeAuthority, UrlPath.write, List.nil_append, List.mem_append] at hc
    rcases hc with hc | hc
    · have hholds := (hclear c hc).2
      simp only [Percent.controls, Bool.or_eq_false_iff, decide_eq_false_iff_not] at hholds
      omega
    · exact Nat.le_of_lt (htail.lt_toNat c hc)
  · simp only [writeAuthority, UrlPath.write, List.nil_append]
    intro hlast
    rw [List.getLast?_append] at hlast
    cases htailLast : (tailText query fragment).getLast? with
    | none =>
        rw [htailLast, Option.none_or] at hlast
        have hnil := List.getLast?_eq_none_iff.mp htailLast
        obtain ⟨hquery, hfragment⟩ := tailText_eq_nil_iff.mp hnil
        exact hblank hquery hfragment hlast
    | some c =>
        rw [htailLast, Option.some_or] at hlast
        obtain rfl := Option.some.inj hlast
        exact absurd (htail.lt_toNat _ (List.mem_of_getLast? htailLast)) (by decide)

/-- The URL of a file. -/
theorem parse_write_file {host : Host} {parts : List (List Char)} (hscheme : SettledScheme scheme)
    (hfile : schemeKind scheme = .file) (hhost : SettledFileHost host)
    (hparts : SchemeKind.file.PlainPath parts)
    (hdrive : host ≠ .name [] → ∀ first ∈ parts.head?, isDriveLetter first = false)
    (htail : SettledTail .file query fragment) :
    parse (write ⟨scheme, some { host := host }, .segments parts, query, fragment⟩) =
      .ok ⟨scheme, some { host := host }, .segments parts, query, fragment⟩ := by
  have hauthority : (Authority.write { host := host }) = host.write := by
    simp [Authority.write]
  rw [write_eq, parse_append_of_lt hscheme]
  · simp only [hfile, writeAuthority, UrlPath.write, hauthority, List.cons_append]
    exact readFile_write hhost hparts hdrive htail scheme
  · intro c hc
    simp only [writeAuthority, UrlPath.write, hauthority, List.mem_append, List.mem_cons] at hc
    rcases hc with (rfl | rfl | hc) | hc | hc
    · decide
    · decide
    · exact (Host.isHostChar_spec (hhost.chars c hc)).1
    · exact (mem_segments hparts.clear hc).1
    · exact htail.lt_toNat c hc

end Write

/-- **Written URLs.** A settled URL is read as it is written. -/
theorem parse_write {u : Url} (h : Settled u) : parse u.write = .ok u := by
  cases h with
  | hosted hscheme hfile ha hparts htail => exact parse_write_hosted hscheme hfile ha hparts htail
  | rooted hscheme hother hparts htail => exact parse_write_rooted hscheme hother hparts htail
  | flat hscheme hother hclear hends hslash hblank htail =>
      exact parse_write_flat hscheme hother hclear hends hslash hblank htail
  | file hscheme hfile hhost hparts hdrive htail =>
      exact parse_write_file hscheme hfile hhost hparts hdrive htail

/-! ### What is read -/

/-- What is read behind the slashes of a URL with a host. -/
theorem settled_of_readAfterSlashes {kind : SchemeKind} {scheme text : List Char} {u : Url}
    (hscheme : SettledScheme scheme) (hkind : schemeKind scheme = kind) (hfile : kind ≠ .file)
    (h : readAfterSlashes kind scheme text = .ok u) (hhost : u.HostIsRead) : Settled u := by
  subst hkind
  have hplain (text : List Char) :
      (schemeKind scheme).PlainPath (readPath (schemeKind scheme) text).1 :=
    plainPath_of_readPath fun hkind => absurd hkind hfile
  unfold readAfterSlashes at h
  simp only [bind, Except.bind, pure, Except.pure] at h
  split at h
  next => cases h
  next read hread =>
    obtain ⟨a, after⟩ := read
    obtain rfl := Except.ok.inj h
    refine .hosted hscheme hfile
      (settled_of_readAuthority hread fun hspecial => hhost hspecial a rfl) ?_ (.of_readTail rfl)
    split
    next =>
      split
      next => exact .inl ⟨by simpa using SchemeKind.Plain.nil, by simp, fun _ => rfl⟩
      next hspecial => exact .inr ⟨Bool.eq_false_iff.mpr hspecial, rfl⟩
    next => exact .inl (hplain _)
    next => exact .inl (hplain _)

/-- What is read of a URL without a well-known scheme. -/
theorem settled_of_readOther {scheme text : List Char} {u : Url} (hscheme : SettledScheme scheme)
    (hother : schemeKind scheme = .other) (hblank : text.getLast? ≠ some ' ')
    (h : readOther scheme text = .ok u) (hhost : u.HostIsRead) : Settled u := by
  unfold readOther at h
  split at h
  next => exact settled_of_readAfterSlashes hscheme hother (by simp) h hhost
  next =>
    obtain rfl := Except.ok.inj h
    exact .rooted hscheme hother (plainPath_of_readPath fun hfile => by cases hfile)
      (.of_readTail rfl)
  next hroot =>
    obtain rfl := Except.ok.inj h
    refine .flat hscheme hother (Percent.clear_encodeText Percent.isOpen_controls _) ?_ ?_ ?_
      (.of_readTail rfl)
    · intro c hc
      cases hends : endsPath c with
      | false => rfl
      | true =>
          have hmark : c = '?' ∨ c = '#' := by simpa [endsPath] using hends
          have hmem : c ∈ text.takeWhile (!endsPath ·) := by
            rcases hmark with rfl | rfl
            · exact Percent.mem_of_mem_encodeText hc (by decide) (by decide)
            · exact Percent.mem_of_mem_encodeText hc (by decide) (by decide)
          have hnot := List.mem_takeWhile_imp hmem
          rw [hends] at hnot
          cases hnot
    · intro hhead
      have hpath := Percent.head?_of_head?_encodeText hhead (by decide) (by decide)
      cases text with
      | nil => cases hpath
      | cons c rest =>
          rw [List.takeWhile_cons] at hpath
          split at hpath
          next => exact hroot rest (by rw [Option.some.inj hpath])
          next => cases hpath
    · intro hquery hfragment hlast
      have hpath := Percent.getLast?_of_getLast?_encodeText hlast (by decide) (by decide)
      have hall := takeWhile_eq_self_of_readTail (Prod.ext hquery hfragment)
      rw [hall] at hpath
      exact hblank hpath

/-- What is read of the URL of a file. -/
theorem settled_of_readFile {scheme text : List Char} {u : Url} (hscheme : SettledScheme scheme)
    (hfile : schemeKind scheme = .file)
    (hdrive : schemeKind u.scheme = .file → ∀ parts, u.path = .segments parts →
      ∀ first ∈ parts.head?, isDriveLetter first = false)
    (h : readFile scheme text = .ok u) (hhost : u.HostIsRead) : Settled u := by
  have hsettled {host : Host}
      (hread : (host ≠ .name [] → ∃ again, Host.parseSpecial host.write = .ok again) →
        SettledFileHost host) (path : List Char)
      (heq : finish .file scheme
          (some { host := if (readPath .file path).2 = true then host else .name [] })
          (.segments (readPath .file path).1)
          (visible (text.drop (text.takeWhile (!endsPath ·)).length)) = u) : Settled u := by
    subst heq
    have hfirst := hdrive hfile _ rfl
    have hspecial : (schemeKind scheme).isSpecial = true := by rw [hfile]; rfl
    have hagain := hhost hspecial _ rfl
    refine .file hscheme hfile ?_ (plainPath_of_readPath fun _ => hfirst) (fun _ => hfirst)
      (.of_readTail rfl)
    cases hkeeps : (readPath .file path).2 with
    | true =>
        simp only [hkeeps, if_true] at hagain ⊢
        exact hread hagain
    | false =>
        simp only [Bool.false_eq_true, if_false]
        exact settledFileHost_none
  unfold readFile at h
  simp only [bind, Except.bind, pure, Except.pure] at h
  split at h
  next => exact hsettled (fun _ => settledFileHost_none) _ (Except.ok.inj h)
  next =>
    split at h
    next => exact hsettled (fun _ => settledFileHost_none) _ (Except.ok.inj h)
    next =>
      split at h
      next => cases h
      next read hread =>
        exact hsettled (settledFileHost_of_readFileSlashes hread) _ (Except.ok.inj h)

/-- Nothing that counts is a blank at the end of a URL. -/
theorem getLast?_visible_ne {text scheme rest : List Char}
    (h : splitScheme (trimMargin text) = some (scheme, rest)) :
    (visible rest).getLast? ≠ some ' ' := by
  have htext : ∃ before, trimMargin text = before ++ ':' :: rest := by
    unfold splitScheme at h
    split at h
    next => cases h
    next before after hsplit =>
      simp only [Option.ite_none_right_eq_some, Option.some.injEq, Prod.mk.injEq] at h
      exact ⟨before, by rw [Text.eq_append_of_splitOnce hsplit, h.2.2]⟩
  obtain ⟨before, htext⟩ := htext
  intro hlast
  rcases List.eq_nil_or_concat rest with rfl | ⟨init, c, rfl⟩
  · cases hlast
  · have hmargin : isMargin c = false := by
      have hhead := List.head?_dropWhile_not isMargin (text.dropWhile isMargin).reverse
      have hget := congrArg List.getLast? htext
      rw [trimMargin, List.getLast?_reverse] at hget
      rw [hget, List.concat_eq_append, ← List.cons_append, ← List.append_assoc,
        List.getLast?_concat] at hhead
      exact hhead
    have hignored : isIgnored c = false :=
      isIgnored_eq_false_of_le (by simp [isMargin] at hmargin; omega)
    rw [List.concat_eq_append, visible, List.filter_append] at hlast
    simp [hignored] at hlast
    subst hlast
    revert hmargin
    decide

/-- **URLs that were read.** They are settled, but for those with a host that is refused where it
is written, and the files whose path starts with a drive letter. -/
theorem settled_of_parse {text : List Char} {u : Url} (h : parse text = .ok u)
    (hhost : u.HostIsRead)
    (hdrive : schemeKind u.scheme = .file → ∀ parts, u.path = .segments parts →
      ∀ first ∈ parts.head?, isDriveLetter first = false) : Settled u := by
  unfold parse at h
  split at h
  next => cases h
  next scheme rest hsplit =>
    have hscheme := SettledScheme.of_splitScheme hsplit
    split at h
    next hkind => exact settled_of_readFile hscheme hkind hdrive h hhost
    next port hkind => exact settled_of_readAfterSlashes hscheme hkind (by simp) h hhost
    next hkind => exact settled_of_readOther hscheme hkind (getLast?_visible_ne hsplit) h hhost

end PullDiagnostics.Url
