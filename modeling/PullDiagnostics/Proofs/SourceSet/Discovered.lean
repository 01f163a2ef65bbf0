import PullDiagnostics.Proofs.DocumentUri.LastName
import PullDiagnostics.Proofs.FileTree.Order
import PullDiagnostics.Proofs.FileTree.Walks
import PullDiagnostics.Proofs.Orchestrator.History

/-!
# Files that are discovered, and their documents

A discovered file is spelled as the root that it was found from with names below it, and its
document holds the names that are left when each two dots have been resolved. Whether a query for a
document is worth a pass is told from the path of the document, which is held against the roots as
they are spelled. So a root that goes up on its way covers none of the documents of the files that
are found from it, and they are answered for only where another root covers them.

## Main results

* `SourceSet.exists_descend_of_mem_filesUnder`: the files that are found from a root.
* `Orchestrator.couldBeAnalysed_of_mem_filesUnder`, `Orchestrator.couldBeAnalysed_of_mem_discover`:
  from roots that lead down, nothing is found that is not answered for.
* `Orchestrator.couldBeAnalysed_iff_of_mem_discover`: which of the discovered files are.
-/

namespace PullDiagnostics

open FilePath (IsName slash)

namespace SourceSet

variable {s : SourceSet} {t : FileTree} {root p : FilePath}

/-! ### Files under a root -/

/-- **The files that are found from a root** are names below it, as it is spelled, that have an
extension of the source set and are not excluded from the root. -/
theorem exists_descend_of_mem_filesUnder (ht : t.WellNamed) (hroot : root.isAbsolute = true)
    (h : p ∈ s.filesUnder t root) :
    ∃ names, names ≠ [] ∧ (∀ name ∈ names, IsName name) ∧ p = root.descend names ∧
      s.hasExtension p = true ∧ s.excludes ⟨List.intercalate [slash] names⟩ = false := by
  unfold filesUnder at h
  split at h
  next =>
    obtain ⟨hwalked, htakes⟩ := List.mem_filter.mp h
    obtain ⟨item, hitem, hfile⟩ := List.mem_filterMap.mp hwalked
    obtain rfl : item = .file p := by
      cases item with
      | file q => exact congrArg FileTree.WalkItem.file (Option.some.inj hfile)
      | problem text => cases hfile
    obtain ⟨names, hne, hnames, rfl⟩ := FileTree.exists_descend_of_mem_walkFrom ht hitem
    rw [takes, FilePath.stripPrefix?_descend hroot hnames hne, Option.getD_some,
      Bool.and_eq_true, Bool.not_eq_true'] at htakes
    exact ⟨names, hne, hnames, rfl, htakes⟩
  next => cases h

/-- A path with one of the extensions has an extension. -/
theorem extension?_isSome_of_hasExtension (h : s.hasExtension p = true) :
    p.extension?.isSome = true := by
  unfold hasExtension at h
  split at h
  next => cases h
  next heq => rw [heq]; rfl

/-- Two paths with the same extension are in or out together. -/
theorem hasExtension_congr {q : FilePath} (h : q.extension? = p.extension?) :
    s.hasExtension q = s.hasExtension p := by
  rw [hasExtension, hasExtension, h]

/-- Every file found lies under a root. -/
theorem exists_root_of_mem_discover (h : p ∈ s.discover t) :
    ∃ root ∈ s.roots, p ∈ s.filesUnder t root :=
  List.mem_flatMap.mp (FilePath.mem_of_mem_sortedUnion h)

end SourceSet

/-- A path that starts with the components of another one leads down only if this does. -/
theorem FilePath.LeadsDown.of_stripPrefix? {q root relative : FilePath} (hq : q.LeadsDown)
    (hroot : root.isAbsolute = true) (h : q.stripPrefix? root = some relative) :
    root.LeadsDown := by
  refine ⟨hroot, fun hparent => hq.no_parent ?_⟩
  unfold stripPrefix? at h
  dsimp only at h
  split at h
  next hprefix => exact (List.isPrefixOf_iff_prefix.mp hprefix).subset hparent
  next => cases h

/-- Below a path that leads down, as much is left of the path of a document as of the path that the
document was made from. -/
theorem DocumentUri.stripPrefix?_of_descend {root : FilePath} (hroot : root.LeadsDown)
    {names : List Bytes} (hnames : ∀ name ∈ names, IsName name) (hne : names ≠ []) :
    ∃ d q, ofPath? (root.descend names) = some d ∧ d.toPath? = some q ∧
      q.stripPrefix? root = some ⟨List.intercalate [slash] names⟩ := by
  obtain ⟨above, habove, hcomponents⟩ := hroot.exists_names
  have hall : ∀ name ∈ above ++ names, IsName name := by
    intro name hname
    exact (List.mem_append.mp hname).elim (habove name) (hnames name)
  have hsome : above ++ names ≠ [] := List.append_ne_nil_of_right_ne_nil _ hne
  have hsaid : (root.descend names).components = .root :: (above ++ names).map .name := by
    rw [FilePath.components_descend hroot.absolute hnames, hcomponents, List.map_append]
    rfl
  have hdocument :=
    ofPath?_of_names (FilePath.isAbsolute_descend hroot.absolute hnames) hall hsaid
  rw [segmentsOf_of_ne_nil hsome] at hdocument
  obtain ⟨back, hback, hpieces⟩ := exists_splitOn_closeDrive hall
  have hfront : FilePath.namesOf above = FilePath.namesOf (root.bytes.splitOn slash) := by
    rw [FilePath.namesOf_of_isName habove]
    rw [FilePath.components_of_isAbsolute hroot.absolute] at hcomponents
    exact (List.cons.inj hcomponents).2.symm
  refine ⟨_, _, hdocument, toPath?_of_names hsome, ?_⟩
  refine FilePath.stripPrefix?_of_splitOn
    (Url.isAbsolute_closeDrive (FilePath.isAbsolute_flatMap hsome)) hroot.absolute ?_ hfront hnames
    hne hback
  rw [hpieces, List.append_assoc]

namespace Orchestrator

variable {o : Orchestrator} {t : FileTree} {root p : FilePath}

/-! ### Documents of discovered files -/

/-- A document could be analysed if its path is covered by the sources. -/
theorem couldBeAnalysed_iff {d : DocumentUri} {q : FilePath} (hq : d.toPath? = some q) :
    o.couldBeAnalysed d = true ↔ o.setup.sources.hasExtension q = true ∧
      ∃ root ∈ o.setup.sources.roots, ∃ relative, q.stripPrefix? root = some relative ∧
        o.setup.sources.excludes relative = false := by
  rw [couldBeAnalysed, hq, Option.any_some, SourceSet.covers_iff]

/-- **From a root that leads down** nothing is found that is not answered for. -/
theorem couldBeAnalysed_of_mem_filesUnder (ht : t.WellNamed) (hroot : root ∈ o.setup.sources.roots)
    (hdown : root.LeadsDown) (h : p ∈ o.setup.sources.filesUnder t root) {d : DocumentUri}
    (hd : DocumentUri.ofPath? p = some d) : o.couldBeAnalysed d = true := by
  obtain ⟨names, hne, hnames, rfl, hextension, hexcludes⟩ :=
    SourceSet.exists_descend_of_mem_filesUnder ht hdown.absolute h
  obtain ⟨d', q, hd', hq, hstrip⟩ := DocumentUri.stripPrefix?_of_descend hdown hnames hne
  obtain ⟨d'', q', hd'', hq', -, hsame⟩ := DocumentUri.exists_ofPath?_of_extension?
    (FilePath.isAbsolute_descend hdown.absolute hnames)
    (SourceSet.extension?_isSome_of_hasExtension hextension)
  obtain rfl := Option.some.inj (hd.symm.trans hd')
  obtain rfl := Option.some.inj (hd.symm.trans hd'')
  obtain rfl := Option.some.inj (hq.symm.trans hq')
  exact (couldBeAnalysed_iff hq).mpr
    ⟨(SourceSet.hasExtension_congr hsame).trans hextension, root, hroot, _, hstrip, hexcludes⟩

/-- If all roots lead down, a query for any discovered file is worth a pass. -/
theorem couldBeAnalysed_of_mem_discover (ht : t.WellNamed)
    (hroots : ∀ root ∈ o.setup.sources.roots, root.LeadsDown)
    (h : p ∈ o.setup.sources.discover t) {d : DocumentUri} (hd : DocumentUri.ofPath? p = some d) :
    o.couldBeAnalysed d = true := by
  obtain ⟨root, hroot, hunder⟩ := SourceSet.exists_root_of_mem_discover h
  exact couldBeAnalysed_of_mem_filesUnder ht hroot (hroots root hroot) hunder hd

/-- **Discovered files.** Each of them has a document, which leads to a path that goes up nowhere. A
query for the document is worth a pass exactly if there is a root that goes up nowhere either, and
the file was found from it or the path of the document lies below it and is not excluded. -/
theorem couldBeAnalysed_iff_of_mem_discover (ht : t.WellNamed)
    (hroots : ∀ root ∈ o.setup.sources.roots, root.isAbsolute = true)
    (h : p ∈ o.setup.sources.discover t) :
    ∃ d q, DocumentUri.ofPath? p = some d ∧ d.toPath? = some q ∧ q.LeadsDown ∧
      (o.couldBeAnalysed d = true ↔ ∃ root ∈ o.setup.sources.roots, root.LeadsDown ∧
        (p ∈ o.setup.sources.filesUnder t root ∨ ∃ relative, q.stripPrefix? root = some relative ∧
          o.setup.sources.excludes relative = false)) := by
  obtain ⟨origin, horigin, hfound⟩ := SourceSet.exists_root_of_mem_discover h
  obtain ⟨names, hne, hnames, hp, hextension, -⟩ :=
    SourceSet.exists_descend_of_mem_filesUnder ht (hroots origin horigin) hfound
  have habsolute : p.isAbsolute = true :=
    hp ▸ FilePath.isAbsolute_descend (hroots origin horigin) hnames
  obtain ⟨d, q, hd, hq, hdown, hsame⟩ := DocumentUri.exists_ofPath?_of_extension? habsolute
    (SourceSet.extension?_isSome_of_hasExtension hextension)
  refine ⟨d, q, hd, hq, hdown, ⟨fun hcould => ?_, ?_⟩⟩
  · obtain ⟨-, root, hroot, relative, hstrip, hexcludes⟩ := (couldBeAnalysed_iff hq).mp hcould
    exact ⟨root, hroot, hdown.of_stripPrefix? (hroots root hroot) hstrip,
      .inr ⟨relative, hstrip, hexcludes⟩⟩
  · rintro ⟨root, hroot, hroot_down, hunder | ⟨relative, hstrip, hexcludes⟩⟩
    · exact couldBeAnalysed_of_mem_filesUnder ht hroot hroot_down hunder hd
    · exact (couldBeAnalysed_iff hq).mpr
        ⟨(SourceSet.hasExtension_congr hsame).trans hextension, root, hroot, relative, hstrip,
          hexcludes⟩

/-- The names in the tree are legal. -/
theorem wellNamed_sampleTree : sampleTree.WellNamed :=
  ⟨by decide, ⟨by decide, trivial, trivial⟩, trivial⟩

/-- The only file below a root that leads down is answered for. -/
theorem couldBeAnalysed_samplePath :
    sampleTree.WellNamed ∧ (∀ root ∈ sampleSetup.sources.roots, root.isAbsolute = true) ∧
      samplePath ∈ sampleSetup.sources.discover sampleTree ∧
      ∃ d, DocumentUri.ofPath? samplePath = some d ∧
        ({ setup := sampleSetup } : Orchestrator).couldBeAnalysed d = true := by
  have hroots : ∀ root ∈ sampleSetup.sources.roots, root.isAbsolute = true := by decide
  have hfound : samplePath ∈ sampleSetup.sources.discover sampleTree := by
    rw [discover_sampleTree]
    exact List.mem_singleton_self _
  have hunder : samplePath ∈ sampleSetup.sources.filesUnder sampleTree ⟨[slash, 0x52]⟩ := by
    obtain ⟨root, hroot, hunder⟩ := SourceSet.exists_root_of_mem_discover hfound
    rwa [List.mem_singleton.mp hroot] at hunder
  obtain ⟨d, _, hd, _, _, hiff⟩ := couldBeAnalysed_iff_of_mem_discover
    (o := { setup := sampleSetup }) wellNamed_sampleTree hroots hfound
  exact ⟨wellNamed_sampleTree, hroots, hfound, d, hd,
    hiff.mpr ⟨_, List.mem_singleton_self _, ⟨by decide, by decide⟩, .inl hunder⟩⟩

/-- A setup with a root that goes up. -/
def climbingSetup : Setup :=
  { sampleSetup with
    sources :=
      { roots := [⟨[slash, 0x52, slash, FilePath.dot, FilePath.dot]⟩], extensions := ["b"] } }

/-- The file as it is spelled below that root. -/
def climbingPath : FilePath :=
  ⟨[slash, 0x52, slash, FilePath.dot, FilePath.dot, slash, 0x52, slash, 0x41, FilePath.dot, 0x62]⟩

/-- The file is found from the root, and its document is the one that it has by any other spelling.
But the path of the document does not go up and so is not below the root. -/
theorem not_couldBeAnalysed_climbingPath :
    sampleTree.WellNamed ∧ (∀ root ∈ climbingSetup.sources.roots, root.isAbsolute = true) ∧
      climbingPath ∈ climbingSetup.sources.discover sampleTree ∧
      DocumentUri.ofPath? climbingPath = some sampleDocument ∧
      ({ setup := climbingSetup } : Orchestrator).couldBeAnalysed sampleDocument = false := by
  have hwalk : sampleTree.walkFrom ⟨[slash, 0x52, slash, FilePath.dot, FilePath.dot]⟩ =
      [.file climbingPath] := by cbv
  have hfound : climbingSetup.sources.discover sampleTree = [climbingPath] := by
    rw [SourceSet.discover_of_walkFrom rfl (by cbv) hwalk]
    decide
  refine ⟨wellNamed_sampleTree, by decide, ?_, by decide, by decide⟩
  rw [hfound]
  exact List.mem_singleton_self _

end Orchestrator

end PullDiagnostics
