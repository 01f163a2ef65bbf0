import PullDiagnostics.Proofs.DocumentUri.Paths
import PullDiagnostics.Proofs.Url.LocalFiles

/-!
# Names that are read again

What names a document is written down, sent and read again, so its text has to lead back to it.
It does for all but a few names. The text of a URL whose scheme is a single letter is taken for a
path with a drive letter, which names no document here. A host with a long name beyond ASCII may
take more text in ASCII than is read. And of some files the text leads to another path: two dots at
the end of a path leave a slash behind, which the next reading drops, and a drive letter at the
start of a path takes the place of the host.

## Main results

* `keepsPath_of_ofPath?`: the name of a path that does not end in two dots keeps its path.
* `ofString?_render`: the text of a name leads back to the name, if that keeps its path and its host
  is not refused.
-/

namespace PullDiagnostics

namespace UrlPath

/-- Whether a path ends in a slash that is not all of it. -/
def endsInSlash : UrlPath → Bool
  | .flat _ => false
  | .segments parts => parts.getLast? = some [] && parts ≠ [[]]

/-- Whether a path starts with a drive letter. -/
def startsWithDrive : UrlPath → Bool
  | .flat _ => false
  | .segments parts => parts.head?.any Url.isDriveLetter

end UrlPath

namespace DocumentUri

/-- What names a document: what is made of a text, of a path or of a URL that was read. -/
inductive Named : DocumentUri → Prop where
  | text {s : String} {d : DocumentUri} (h : ofString? s = some d) : Named d
  | path {p : FilePath} {d : DocumentUri} (h : ofPath? p = some d) : Named d
  | url {text : List Char} {u : Url} (h : Url.parse text = .ok u) : Named (ofUrl u)

/-- Whether the path of a file is the same when its name is read again: no slash is left at the end
of a local one, and none of another host starts with a drive letter. -/
structure KeepsPath (d : DocumentUri) : Prop where
  open_end : d.toPath?.isSome = true → d.url.path.endsInSlash = false
  no_drive : d.url.scheme = "file".toList → d.toPath? = none → d.url.path.startsWithDrive = false

/-! ### Names of local files -/

/-- The URL of a path is that of names, with a slash behind them at most where the path ends in two
dots. -/
theorem exists_localPath_of_urlOfPath? {p : FilePath} {u : Url} (h : urlOfPath? p = some u) :
    ∃ parts, Url.LocalPath parts ∧ u = Url.localFile parts ∧
      (p.components.getLast? ≠ some .parent → parts.getLast? = some [] → parts = [[]]) := by
  obtain ⟨written, hwritten, hread⟩ := Option.bind_eq_some_iff.mp h
  obtain ⟨parts, hparts, hparse, hends⟩ := Url.exists_parse_ofPath? hwritten
  rw [hparse] at hread
  exact ⟨parts, hparts, (Option.some.inj hread).symm, hends⟩

/-- The URI of a local file names a path. -/
theorem isSome_toPath?_localFile {parts : List (List Char)} (h : Url.LocalPath parts) :
    (DocumentUri.mk (Url.localFile parts)).toPath?.isSome = true := by
  obtain ⟨first, others, rfl⟩ := List.exists_cons_of_ne_nil h.plainPath.ne_nil
  simp [toPath?, Url.toPath?, Url.localFile, Url.localHost]

/-- A local file without a slash at its end is normal. -/
theorem ofUrl_localFile {parts : List (List Char)} (h : Url.LocalPath parts)
    (hends : (UrlPath.segments parts).endsInSlash = false) :
    ofUrl (Url.localFile parts) = ⟨Url.localFile parts⟩ := by
  have hroot : parts.getLast? = some [] → parts = [[]] := by
    simpa [UrlPath.endsInSlash] using hends
  have hcanonical : (Url.localFile parts).toPath?.bind urlOfPath? = some (Url.localFile parts) := by
    have hback := congrArg (Option.bind · fun u => (Url.parse u.write).toOption)
      (h.toPath?_bind_ofPath? hroot)
    simp only [Option.bind_assoc, Option.bind_some, Url.parse_write h.settled] at hback
    exact hback
  unfold ofUrl
  rw [hcanonical]
  exact if_pos rfl

/-- Whether a name is the URL of a local path. -/
def IsLocal (d : DocumentUri) : Prop :=
  ∃ parts, Url.LocalPath parts ∧ d = ⟨Url.localFile parts⟩

/-- Whether a name is a URL as it was read, and that of no local path. -/
def IsOther (d : DocumentUri) : Prop :=
  ∃ text, Url.parse text = .ok d.url ∧ ofUrl d.url = d ∧
    (d.url.scheme = "file".toList → d.toPath? = none)

/-- The document of a path has a local URI. -/
theorem isLocal_of_ofPath? {p : FilePath} {d : DocumentUri} (h : ofPath? p = some d) :
    d.IsLocal := by
  obtain ⟨u, hu, rfl⟩ := Option.map_eq_some_iff.mp h
  obtain ⟨parts, hparts, rfl, -⟩ := exists_localPath_of_urlOfPath? hu
  exact ⟨parts, hparts, rfl⟩

/-- The name of a path that does not end in two dots keeps its path. -/
theorem keepsPath_of_ofPath? {p : FilePath} {d : DocumentUri} (h : ofPath? p = some d)
    (hends : p.components.getLast? ≠ some .parent) : d.KeepsPath := by
  obtain ⟨u, hu, rfl⟩ := Option.map_eq_some_iff.mp h
  obtain ⟨parts, hparts, rfl, hopen⟩ := exists_localPath_of_urlOfPath? hu
  refine ⟨fun _ => ?_, fun _ hnone => ?_⟩
  · simpa [UrlPath.endsInSlash, Url.localFile] using hopen hends
  · have hlocal := isSome_toPath?_localFile hparts
    rw [hnone] at hlocal
    cases hlocal

/-- Every local path has a URL, so a URL that is kept is that of no local path. -/
theorem isLocal_or_isOther_ofUrl {text : List Char} {u : Url} (h : Url.parse text = .ok u) :
    (ofUrl u).IsLocal ∨ (ofUrl u).IsOther := by
  by_cases hfile : u.scheme = "file".toList
  · cases hcanonical : u.toPath?.bind urlOfPath? with
    | some canonical =>
        obtain ⟨p, -, hp⟩ := Option.bind_eq_some_iff.mp hcanonical
        obtain ⟨parts, hparts, rfl, -⟩ := exists_localPath_of_urlOfPath? hp
        exact .inl ⟨parts, hparts, by rw [ofUrl, if_pos hfile, hcanonical]⟩
    | none =>
        have hself : ofUrl u = ⟨u⟩ := by rw [ofUrl, if_pos hfile, hcanonical]
        refine .inr ⟨text, by rw [hself, h], by rw [hself, hself], fun _ => ?_⟩
        rw [hself, toPath?, if_pos hfile]
        -- A path that it led to would be absolute, and would have had a URL.
        cases hp : u.toPath? with
        | none => rfl
        | some p =>
            have hsome := isSome_ofPath? p
            rw [Url.isAbsolute_of_toPath? hp, ofPath?, Option.isSome_map] at hsome
            rw [hp, Option.bind_some] at hcanonical
            rw [hcanonical] at hsome
            cases hsome
  · have hself : ofUrl u = ⟨u⟩ := by rw [ofUrl, if_neg hfile]
    refine .inr ⟨text, by rw [hself, h], by rw [hself, hself], fun hscheme => ?_⟩
    rw [hself] at hscheme
    exact absurd hscheme hfile

/-- **What names are.** -/
theorem Named.isLocal_or_isOther {d : DocumentUri} (h : d.Named) : d.IsLocal ∨ d.IsOther := by
  cases h with
  | @text s d h =>
      unfold ofString? parse? at h
      split at h
      next u hu =>
        split at h
        · obtain rfl := Option.some.inj h
          exact isLocal_or_isOther_ofUrl hu
        · exact .inl (isLocal_of_ofPath? h)
      next => exact .inl (isLocal_of_ofPath? h)
  | @path p d h => exact .inl (isLocal_of_ofPath? h)
  | @url text u h => exact isLocal_or_isOther_ofUrl h

/-! ### Reading a name again -/

/-- A text that starts a path from the root starts with a slash. -/
theorem head?_of_isAbsolute {text : List Char}
    (h : (FilePath.mk (Utf8.encode text)).isAbsolute = true) : text.head? = some '/' := by
  cases text with
  | nil => cases h
  | cons c rest =>
      obtain ⟨b, bytes, hcons⟩ := List.exists_cons_of_ne_nil (utf8EncodeChar_ne_nil c)
      have hencode : Utf8.encode (c :: rest) = b :: (bytes ++ Utf8.encode rest) := by
        rw [Utf8.encode, List.flatMap_cons, hcons]
        rfl
      rw [FilePath.isAbsolute, hencode] at h
      obtain rfl : b = FilePath.slash := by simpa using h
      have hmem : FilePath.slash ∈ Utf8.encode [c] := by
        rw [Utf8.encode, List.flatMap_singleton, hcons]
        exact List.mem_cons_self ..
      obtain ⟨d, hd, hslash⟩ := Utf8.exists_mem_of_mem_encode (by decide) hmem
      rw [List.mem_singleton.mp hd] at hslash
      exact congrArg some (Char.toNat_inj.mp hslash)

/-- A document is rendered as its URI is written. -/
theorem render_toList (d : DocumentUri) : d.render.toList = d.url.write := by
  rw [render, Url.render, String.toList_ofList]

/-- A URL that is read as it is written is kept, unless a drive letter is all of its scheme. -/
theorem ofString?_render_of_settled {d : DocumentUri} (h : d.url.Settled) :
    ofString? d.render = if 1 < d.url.scheme.length then some (ofUrl d.url) else none := by
  have hrelative : (FilePath.mk (Utf8.encode d.url.write)).isAbsolute = false := by
    refine Bool.eq_false_iff.mpr fun habsolute => ?_
    have hslash := head?_of_isAbsolute habsolute
    have hletter := h.scheme.head
    rw [Url.write_eq] at hslash
    cases hscheme : d.url.scheme with
    | nil =>
        rw [hscheme] at hletter
        cases hletter
    | cons c rest =>
        rw [hscheme] at hslash hletter
        obtain rfl : c = '/' := Option.some.inj hslash
        cases hletter
  have hnone : ofPath? ⟨Utf8.encode d.url.write⟩ = none := by
    rwa [← isSome_ofPath?, Option.isSome_eq_false_iff, Option.isNone_iff_eq_none] at hrelative
  rw [ofString?, render_toList, parse?, Url.parse_write h]
  simp only [hnone]

/-- **Names that are read again.** The text of a name leads back to the name, if that keeps its path
and its host is not refused where it is written; but the text of a URL whose scheme is a single
letter is taken for a drive. -/
theorem ofString?_render {d : DocumentUri} (h : d.Named) (hpath : d.KeepsPath)
    (hhost : d.url.HostIsRead) :
    ofString? d.render = if 1 < d.url.scheme.length then some d else none := by
  rcases h.isLocal_or_isOther with ⟨parts, hparts, rfl⟩ | ⟨text, hparse, hself, hlocal⟩
  · have hlocal := isSome_toPath?_localFile hparts
    rw [ofString?_render_of_settled (d := ⟨Url.localFile parts⟩) hparts.settled,
      ofUrl_localFile hparts (hpath.open_end hlocal)]
  · have hsettled : d.url.Settled := by
      refine Url.settled_of_parse hparse hhost fun hkind parts hparts first hfirst => ?_
      have hfile := Url.eq_of_schemeKind_eq_file hkind
      have hdrive := hpath.no_drive hfile (hlocal hfile)
      rw [hparts, UrlPath.startsWithDrive, Option.mem_def.mp hfirst] at hdrive
      simpa using hdrive
    rw [ofString?_render_of_settled hsettled, hself]

/-- The name of a file below the root. -/
def sampleName : DocumentUri :=
  ⟨Url.localFile ["src".toList, "A.java".toList]⟩

/-- A URL whose scheme is a single letter. -/
def letterUrl : Url :=
  { scheme := ['a'], authority := none, path := .flat ['b'] }

/-- The URL of a host with a name beyond ASCII, which is kept in ASCII. -/
def asciiUrl : Url :=
  { scheme := "http".toList, authority := some { host := .name "xn--tda".toList },
    path := .segments [[]] }

/-- A file is named however its URL is spelled, and so is a host beyond ASCII; a scheme of a single
letter names nothing. -/
theorem ofString?_render_sampleName :
    ofString? "FILE://localhost//src/./A.java" = some sampleName ∧ sampleName.KeepsPath ∧
      sampleName.url.HostIsRead ∧ ofString? sampleName.render = some sampleName ∧
      Url.parse "http://Ü".toList = .ok asciiUrl ∧ (ofUrl asciiUrl).KeepsPath ∧
      (ofUrl asciiUrl).url.HostIsRead ∧
      ofString? (ofUrl asciiUrl).render = some (ofUrl asciiUrl) ∧
      Url.parse "A:b".toList = .ok letterUrl ∧ (ofUrl letterUrl).KeepsPath ∧
      (ofUrl letterUrl).url.HostIsRead ∧ ofString? (ofUrl letterUrl).render = none := by
  have hsample : ofString? "FILE://localhost//src/./A.java" = some sampleName := by decide +kernel
  have hascii : Url.parse "http://Ü".toList = .ok asciiUrl := by decide +kernel
  have hletter : Url.parse "A:b".toList = .ok letterUrl := by decide +kernel
  have hkeeps : sampleName.KeepsPath := ⟨by decide +kernel, by decide +kernel⟩
  have hkeeps' : (ofUrl asciiUrl).KeepsPath := ⟨by decide +kernel, by decide +kernel⟩
  have hkeeps'' : (ofUrl letterUrl).KeepsPath := ⟨by decide +kernel, by decide +kernel⟩
  have hhost : sampleName.url.HostIsRead := fun _ a ha hne => by
    obtain rfl := Option.some.inj ha
    exact absurd rfl hne
  have hhost' : (ofUrl asciiUrl).url.HostIsRead := fun _ a ha _ => by
    obtain rfl := Option.some.inj ha
    exact ⟨.name "xn--tda".toList, by decide +kernel⟩
  have hhost'' : (ofUrl letterUrl).url.HostIsRead := fun _ a ha => by cases ha
  exact ⟨hsample, hkeeps, hhost, ofString?_render (.text hsample) hkeeps hhost,
    hascii, hkeeps', hhost', ofString?_render (.url hascii) hkeeps' hhost',
    hletter, hkeeps'', hhost'', ofString?_render (.url hletter) hkeeps'' hhost''⟩

/-- The URL of a file on another host, with a drive letter at the start of its path. -/
def hostDriveUrl : Url :=
  { Url.localFile ["C:".toList, ['x']] with authority := some { host := .name ['h'] } }

/-- Names that are not read as themselves: with a scheme of a single letter, after two dots at the
end of a path, and with a drive letter behind a host. -/
theorem exists_ofString?_render_ne :
    (∃ u, Url.parse "a:b".toList = .ok u ∧ ofString? (ofUrl u).render ≠ some (ofUrl u)) ∧
      (∃ d, ofString? "/ws/src/.." = some d ∧ ofString? d.render ≠ some d) ∧
      ∃ d, ofString? "file://h//C:/x" = some d ∧ ofString? d.render ≠ some d := by
  refine ⟨⟨letterUrl, ?_, ?_⟩, ⟨⟨Url.localFile ["ws".toList, []]⟩, ?_, ?_⟩, ⟨hostDriveUrl⟩, ?_, ?_⟩
  all_goals decide +kernel

end DocumentUri

end PullDiagnostics
