import PullDiagnostics.Proofs.DocumentUri.Normal

/-!
# Paths that lead down, and their documents

A path from the root that nowhere goes up says a row of names. Its document holds these names and
nothing else, each encoded as a segment of its own, whatever bytes they are made of. So the document
leads back to the path, but for idle pieces of its spelling, and is read again from its text; and
paths that say different names have different documents.

## Main results

* `FilePath.LeadsDown.exists_names`: what such a path says.
* `ofPath?_of_names`, `exists_toPath?_of_names`: its document, and the path that this leads to.
* `ofPath?_faithful`: documents and such paths correspond, as far as the paths differ.
-/

namespace PullDiagnostics

namespace FilePath

/-- Whether a path leads from the root to what lies below it and nowhere goes up. -/
structure LeadsDown (p : FilePath) : Prop where
  absolute : p.isAbsolute = true
  no_parent : .parent ∉ p.components

/-- Components that are names come from a list of names. -/
theorem exists_map_name_eq {cs : List Component}
    (h : ∀ c ∈ cs, ∃ name, IsName name ∧ c = .name name) :
    ∃ names : List Bytes, (∀ name ∈ names, IsName name) ∧ cs = names.map .name := by
  induction cs with
  | nil => exact ⟨[], by simp, rfl⟩
  | cons c rest ih =>
      obtain ⟨name, hname, rfl⟩ := h c (List.mem_cons_self ..)
      obtain ⟨names, hall, rfl⟩ := ih fun other hother => h other (List.mem_cons_of_mem _ hother)
      exact ⟨name :: names, by simpa using ⟨hname, hall⟩, rfl⟩

/-- Such a path says a row of names. -/
theorem LeadsDown.exists_names {p : FilePath} (hp : p.LeadsDown) :
    ∃ names : List Bytes, (∀ name ∈ names, IsName name) ∧
      p.components = .root :: names.map .name := by
  have hnames : ∀ c ∈ p.components.tail, ∃ name, IsName name ∧ c = .name name := by
    intro c hc
    refine (eq_parent_or_isName hp.absolute hc).resolve_left ?_
    rintro rfl
    exact hp.no_parent (List.mem_of_mem_tail hc)
  obtain ⟨names, hall, htail⟩ := exists_map_name_eq hnames
  have hroot := components_of_isAbsolute hp.absolute
  rw [hroot, List.tail_cons] at htail
  exact ⟨names, hall, by rw [hroot, htail]⟩

end FilePath

namespace DocumentUri

open FilePath (IsName slash)

/-- The segments of a URL that holds some names; that of the root has an empty one. -/
def segmentsOf (names : List Bytes) : List (List Char) :=
  if names.isEmpty then [[]] else names.map Url.encodeName

section Names

variable {names : List Bytes}

/-- The segments of a file other than the root are its names, encoded. -/
theorem segmentsOf_of_ne_nil (h : names ≠ []) : segmentsOf names = names.map Url.encodeName := by
  simp [segmentsOf, h]

/-- Encoded names are a path that a file URI can have. -/
theorem localPath_segmentsOf (h : ∀ name ∈ names, IsName name) :
    Url.LocalPath (segmentsOf names) := by
  by_cases hne : names = []
  · rw [hne]
    exact .root
  · rw [segmentsOf_of_ne_nil hne]
    exact .names h hne

/-- Only the root's path ends in a slash. -/
theorem endsInSlash_segmentsOf (h : ∀ name ∈ names, IsName name) :
    (UrlPath.segments (segmentsOf names)).endsInSlash = false := by
  by_cases hne : names = []
  · rw [hne]
    rfl
  · have hlast : (segmentsOf names).getLast? ≠ some [] := by
      intro hlast
      rw [segmentsOf_of_ne_nil hne] at hlast
      obtain ⟨name, hname, hnil⟩ := List.mem_map.mp (List.mem_of_getLast? hlast)
      exact Url.encodeName_ne_nil (h name hname) hnil
    simp [UrlPath.endsInSlash, hlast]

/-- **The document of a path** that says some names holds these names. -/
theorem ofPath?_of_names {p : FilePath} (hp : p.isAbsolute = true)
    (h : ∀ name ∈ names, IsName name) (hnames : p.components = .root :: names.map .name) :
    ofPath? p = some ⟨Url.localFile (segmentsOf names)⟩ := by
  have hurl : Url.ofPath? p = some (Url.localFile (segmentsOf names)) := by
    by_cases hne : names = []
    · subst hne
      simp only [Url.ofPath?, hp, hnames, if_true, List.map_nil, List.tail_cons]
      rfl
    · rw [Url.ofPath?_of_components hp hne hnames, segmentsOf_of_ne_nil hne]
  have hread : Url.parse (Url.localFile (segmentsOf names)).write =
      .ok (Url.localFile (segmentsOf names)) :=
    Url.parse_write (localPath_segmentsOf h).settled
  simp only [ofPath?, urlOfPath?, hurl, Option.bind_some, hread]
  rfl

/-- The path of a document that holds names is made of these names. -/
theorem toPath?_of_names (hne : names ≠ []) :
    (DocumentUri.mk (Url.localFile (names.map Url.encodeName))).toPath? =
      some ⟨Url.closeDrive (names.flatMap (slash :: ·))⟩ := by
  rw [toPath?, Url.toPath?_localFile hne]
  exact if_pos rfl

/-- The document leads to a path that says the names again. -/
theorem exists_toPath?_of_names (h : ∀ name ∈ names, IsName name) :
    ∃ q, (DocumentUri.mk (Url.localFile (segmentsOf names))).toPath? = some q ∧
      q.components = .root :: names.map .name := by
  by_cases hne : names = []
  · subst hne
    exact ⟨⟨[slash]⟩, by decide, by decide⟩
  · refine ⟨⟨Url.closeDrive (names.flatMap (slash :: ·))⟩, ?_, ?_⟩
    · rw [segmentsOf_of_ne_nil hne, toPath?_of_names hne]
    · rw [Url.components_closeDrive (FilePath.isAbsolute_flatMap hne),
        FilePath.components_flatMap h hne]

/-- The text of the document is read as the document. -/
theorem ofString?_render_of_names (h : ∀ name ∈ names, IsName name) :
    ofString? (DocumentUri.mk (Url.localFile (segmentsOf names))).render =
      some ⟨Url.localFile (segmentsOf names)⟩ := by
  have hlocal := localPath_segmentsOf h
  rw [ofString?_render_of_settled (d := ⟨Url.localFile (segmentsOf names)⟩) hlocal.settled,
    ofUrl_localFile hlocal (endsInSlash_segmentsOf h)]
  rfl

end Names

/-- **Paths and documents.** Every path that leads down has a document. This leads back to a path
that is the same component by component, its text is read as the document again, and of the paths
that lead down it is the document of just those that are the same component by component. -/
theorem ofPath?_faithful {p : FilePath} (hp : p.LeadsDown) :
    ∃ d, ofPath? p = some d ∧ (∃ q, d.toPath? = some q ∧ q.samePlace p = true) ∧
      ofString? d.render = some d ∧
      ∀ {p' : FilePath}, p'.LeadsDown → (ofPath? p' = some d ↔ p'.samePlace p = true) := by
  obtain ⟨names, hall, hnames⟩ := hp.exists_names
  obtain ⟨q, hq, hback⟩ := exists_toPath?_of_names hall
  refine ⟨_, ofPath?_of_names hp.absolute hall hnames, ⟨q, hq, ?_⟩,
    ofString?_render_of_names hall, fun {p'} hp' => ?_⟩
  · rw [FilePath.samePlace_iff, hback, hnames]
  · obtain ⟨names', hall', hnames'⟩ := hp'.exists_names
    obtain ⟨q', hq', hback'⟩ := exists_toPath?_of_names hall'
    have hdocument := ofPath?_of_names hp'.absolute hall' hnames'
    rw [FilePath.samePlace_iff]
    constructor
    · -- One document leads to one path, and both paths say what that path says.
      intro hsame
      rw [Option.some.inj (hdocument.symm.trans hsame), hq] at hq'
      rw [hnames', ← hback', ← Option.some.inj hq', hback, hnames]
    · intro hsame
      have hmaps : names'.map Component.name = names.map .name := by
        rw [hnames', hnames] at hsame
        exact (List.cons.inj hsame).2
      have hinjective : Function.Injective Component.name := fun _ _ => Component.name.inj
      rw [hdocument, List.map_injective_iff.mpr hinjective hmaps]

/-- A path with a name that is no text and looks encoded, one that starts like a drive, and idle
pieces around them. -/
def strangePath : FilePath :=
  ⟨[0x2F, 0x43, 0x7C, 0x2F, 0x2F, 0x25, 0x32, 0x45, 0xFF, 0x2F, 0x2E]⟩

/-- Such a path and the one that is spelled without idle pieces have one document, which leads back
to them. -/
theorem ofPath?_faithful_strangePath :
    strangePath.LeadsDown ∧ ∃ d, ofPath? strangePath = some d ∧
      (∃ q, d.toPath? = some q ∧ q.samePlace strangePath = true) ∧
      ofString? d.render = some d ∧
      ofPath? ⟨[0x2F, 0x43, 0x7C, 0x2F, 0x25, 0x32, 0x45, 0xFF]⟩ = some d := by
  have hdown : strangePath.LeadsDown := ⟨by decide, by decide⟩
  obtain ⟨d, hd, hback, hread, hsame⟩ := ofPath?_faithful hdown
  exact ⟨hdown, d, hd, hback, hread, (hsame ⟨by decide, by decide⟩).mpr (by decide)⟩

end DocumentUri

end PullDiagnostics
