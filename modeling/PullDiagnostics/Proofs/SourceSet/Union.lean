import Mathlib.Data.List.Permutation
import PullDiagnostics.Proofs.FileTree.Order
import PullDiagnostics.SourceSet.Discovery

/-!
# Discovery as a union over the roots

Each root is searched for itself, and patterns are held against what follows that root in a path.
What is found from any of the roots is discovered, each place once and all in order. So nothing
depends on the order in which roots, extensions and patterns are given, or on how often; a file that
is excluded from one root is there if it is found from another one; and more patterns never lead to
more files.

## Main results

* `build_eq_ok_iff`, `exists_build_of_subset`: which patterns make a source set.
* `mem_filesUnder_iff`: the files that are found from one root.
* `exists_mem_discover_iff`: the places of the discovered files.
* `discover_of_build`: discovery is the sorted union of its roots.
-/

namespace PullDiagnostics

/-- A path that was found from a root, as patterns see it: what follows the root. -/
def FilePath.relativeTo (p root : FilePath) : FilePath :=
  (p.stripPrefix? root).getD p

namespace Glob

variable {closed : Bool} {globs : List Glob}

/-- Patterns make a set unless one of them needs an expression that is too deep. -/
theorem setError?_eq_none_iff :
    setError? closed globs = none ↔ ∀ glob ∈ globs,
      isPlain closed glob.tokens = false → isTooDeep closed glob.tokens = false := by
  have hcompiled : (∀ glob ∈ globs, isPlain closed glob.tokens = false →
        isTooDeep closed glob.tokens = false) ↔
      ∀ tokens ∈ (globs.map Glob.tokens).filter (!isPlain closed ·),
        isTooDeep closed tokens = false := by
    simp [and_imp]
  rw [hcompiled]
  simp only [setError?, List.partition_eq_filter_filter]
  generalize (globs.map Glob.tokens).filter (!isPlain closed ·) = compiled
  -- What is compiled alone and what is compiled together is all that is compiled.
  constructor
  · intro h tokens hmem
    split at h
    next => cases h
    next hsingle =>
      rw [Option.map_eq_none_iff, List.findIdx?_eq_none_iff] at h
      rw [List.find?_eq_none] at hsingle
      by_cases hneeds : needsExtension tokens = true
      · simpa using hsingle tokens (List.mem_filter.mpr ⟨hmem, hneeds⟩)
      · exact h tokens (List.mem_filter.mpr ⟨hmem, by simpa using hneeds⟩)
  · intro h
    have hsingle : (compiled.filter needsExtension).find? (isTooDeep closed) = none := by
      rw [List.find?_eq_none]
      exact fun tokens hmem => by simp [h tokens (List.mem_filter.mp hmem).1]
    have hjoint :
        (compiled.filter (not ∘ needsExtension)).findIdx? (isTooDeep closed) = none := by
      rw [List.findIdx?_eq_none_iff]
      exact fun tokens hmem => h tokens (List.mem_filter.mp hmem).1
    rw [hsingle, hjoint]
    rfl

end Glob

namespace SourceSet

variable {roots : List FilePath} {extensions patterns : List String} {s : SourceSet}
  {t : FileTree} {root p : FilePath}

/-! ### Patterns -/

/-- The globs read are those of the patterns. -/
theorem mem_iff_of_readPatterns {globs : List Glob} (h : readPatterns patterns = .ok globs)
    {glob : Glob} :
    glob ∈ globs ↔ ∃ pattern ∈ patterns, Glob.parse false pattern.toList = .ok glob := by
  induction patterns generalizing globs with
  | nil =>
      cases h
      simp
  | cons pattern rest ih =>
      unfold readPatterns at h
      cases hfirst : Glob.parse false pattern.toList with
      | error cause => simp [hfirst] at h
      | ok first =>
          simp only [hfirst] at h
          cases hrest : readPatterns rest with
          | error cause => simp [hrest, Except.map] at h
          | ok others =>
              rw [hrest] at h
              cases h
              simp [ih hrest, hfirst, eq_comm]

/-- Patterns can be read if each of them can. -/
theorem exists_readPatterns_iff :
    (∃ globs, readPatterns patterns = .ok globs) ↔
      ∀ pattern ∈ patterns, ∃ glob, Glob.parse false pattern.toList = .ok glob := by
  induction patterns with
  | nil => simp [readPatterns]
  | cons pattern rest ih =>
      rw [List.forall_mem_cons, ← ih, readPatterns]
      cases Glob.parse false pattern.toList with
      | error cause => simp
      | ok first => cases readPatterns rest <;> simp [Except.map]

/-- A source set is built of roots, bare extensions and globs that can all be used together. -/
theorem build_eq_ok_iff :
    build roots extensions patterns = .ok s ↔
      s.roots = roots ∧ s.extensions = bareExtensions extensions ∧
        readPatterns patterns = .ok s.exclude ∧ Glob.setError? false s.exclude = none := by
  unfold build
  cases hread : readPatterns patterns with
  | error cause => simp
  | ok globs =>
      obtain ⟨roots', extensions', exclude⟩ := s
      dsimp only
      cases hset : Glob.setError? false globs with
      | some cause =>
          constructor
          · rintro ⟨⟩
          · rintro ⟨-, -, ⟨⟩, hnone⟩
            exact absurd (hset.symm.trans hnone) (by simp)
      | none =>
          constructor
          · rintro ⟨⟩
            exact ⟨rfl, rfl, rfl, hset⟩
          · rintro ⟨rfl, rfl, ⟨⟩, -⟩
            rfl

/-- Some of the patterns of a source set make one too, in any order, with any roots and
extensions. -/
theorem exists_build_of_subset (h : build roots extensions patterns = .ok s)
    {fewer : List String} (hfewer : fewer ⊆ patterns) (roots' : List FilePath)
    (extensions' : List String) : ∃ s', build roots' extensions' fewer = .ok s' := by
  obtain ⟨-, -, hread, hset⟩ := build_eq_ok_iff.mp h
  obtain ⟨globs, hglobs⟩ := exists_readPatterns_iff.mpr fun pattern hpattern =>
    exists_readPatterns_iff.mp ⟨_, hread⟩ pattern (hfewer hpattern)
  refine ⟨⟨roots', bareExtensions extensions', globs⟩,
    build_eq_ok_iff.mpr ⟨rfl, rfl, hglobs, Glob.setError?_eq_none_iff.mpr fun glob hglob => ?_⟩⟩
  obtain ⟨pattern, hpattern, hparse⟩ := (mem_iff_of_readPatterns hglobs).mp hglob
  exact Glob.setError?_eq_none_iff.mp hset glob
    ((mem_iff_of_readPatterns hread).mpr ⟨pattern, hfewer hpattern, hparse⟩)

/-! ### What is found -/

/-- Whether a file is found from a root: the root is a directory, the walk from it meets the file,
the file has one of some extensions, and no pattern matches what follows the root. -/
structure IsFound (t : FileTree) (extensions patterns : List String) (root p : FilePath) :
    Prop where
  isDirectory : t.isDirectory root = true
  met : .file p ∈ t.walkFrom root
  extension : ∃ extension ∈ extensions, bareExtension extension ≠ "" ∧
    p.extension? = some (Utf8.encode (bareExtension extension).toList)
  kept : ∀ pattern ∈ patterns, ∀ glob, Glob.parse false pattern.toList = .ok glob →
    glob.accepts false (p.relativeTo root).bytes = false

/-- More extensions and fewer patterns find no less. -/
theorem IsFound.of_subset {extensions' patterns' : List String}
    (h : IsFound t extensions patterns root p) (hextensions : extensions ⊆ extensions')
    (hpatterns : patterns' ⊆ patterns) : IsFound t extensions' patterns' root p where
  isDirectory := h.isDirectory
  met := h.met
  extension := h.extension.imp fun _ hextension => hextension.imp_left (hextensions ·)
  kept pattern hpattern := h.kept pattern (hpatterns hpattern)

/-- The files of a walk are those that it meets as files. -/
theorem mem_walkedFiles_iff {items : List FileTree.WalkItem} :
    p ∈ walkedFiles items ↔ .file p ∈ items := by
  unfold walkedFiles
  rw [List.mem_filterMap]
  constructor
  · rintro ⟨item, hitem, hfile⟩
    cases item with
    | file q => exact Option.some.inj hfile ▸ hitem
    | problem text => cases hfile
  · exact fun hfile => ⟨_, hfile, rfl⟩

/-- A path has one of the extensions given, with or without a dot in front of them. -/
theorem hasExtension_of_build (h : build roots extensions patterns = .ok s) :
    s.hasExtension p = true ↔ ∃ extension ∈ extensions, bareExtension extension ≠ "" ∧
      p.extension? = some (Utf8.encode (bareExtension extension).toList) := by
  have hextensions : s.extensions = bareExtensions extensions := (build_eq_ok_iff.mp h).2.1
  unfold hasExtension
  rw [hextensions]
  cases p.extension? with
  | none => simp
  | some bytes =>
      simp only [bareExtensions, List.any_eq_true, List.mem_filter, List.mem_map, beq_iff_eq,
        Bool.not_eq_true', String.isEmpty_eq_false_iff, Option.some.injEq]
      constructor
      · rintro ⟨_, ⟨⟨extension, hextension, rfl⟩, hne⟩, hbytes⟩
        exact ⟨extension, hextension, hne, hbytes.symm⟩
      · rintro ⟨extension, hextension, hne, hbytes⟩
        exact ⟨_, ⟨⟨extension, hextension, rfl⟩, hne⟩, hbytes.symm⟩

/-- A path is kept if no pattern matches it. -/
theorem excludes_of_build (h : build roots extensions patterns = .ok s) (relative : FilePath) :
    s.excludes relative = false ↔ ∀ pattern ∈ patterns, ∀ glob,
      Glob.parse false pattern.toList = .ok glob → glob.accepts false relative.bytes = false := by
  obtain ⟨-, -, hread, -⟩ := build_eq_ok_iff.mp h
  simp only [excludes, List.any_eq_false, Bool.not_eq_true, mem_iff_of_readPatterns hread]
  exact ⟨fun hkept pattern hpattern glob hparse => hkept glob ⟨pattern, hpattern, hparse⟩,
    fun hkept glob ⟨pattern, hpattern, hparse⟩ => hkept pattern hpattern glob hparse⟩

/-- **The files under a root** are those that are found from it. -/
theorem mem_filesUnder_iff (h : build roots extensions patterns = .ok s) :
    p ∈ s.filesUnder t root ↔ IsFound t extensions patterns root p := by
  have htakes : s.takes root p = true ↔
      s.hasExtension p = true ∧ s.excludes (p.relativeTo root) = false := by
    rw [takes, Bool.and_eq_true, Bool.not_eq_true']
    rfl
  rw [hasExtension_of_build h, excludes_of_build h] at htakes
  unfold filesUnder
  split
  next hdirectory =>
    rw [List.mem_filter, mem_walkedFiles_iff, htakes]
    exact ⟨fun ⟨hmet, hextension, hkept⟩ => ⟨hdirectory, hmet, hextension, hkept⟩,
      fun hfound => ⟨hfound.met, hfound.extension, hfound.kept⟩⟩
  next hdirectory =>
    exact ⟨fun hmem => absurd hmem List.not_mem_nil,
      fun hfound => absurd hfound.isDirectory hdirectory⟩

/-- **The places of the discovered files** are those of all that is found from any root. -/
theorem exists_mem_discover_iff (h : build roots extensions patterns = .ok s) :
    (∃ q ∈ s.discover t, q.samePlace p = true) ↔
      ∃ root ∈ roots, ∃ q, IsFound t extensions patterns root q ∧ q.samePlace p = true := by
  have hroots : s.roots = roots := (build_eq_ok_iff.mp h).1
  rw [discover, FilePath.exists_mem_sortedUnion_iff, hroots]
  simp only [List.mem_flatMap, mem_filesUnder_iff h]
  constructor
  · rintro ⟨q, ⟨root, hroot, hfound⟩, hsame⟩
    exact ⟨root, hroot, q, hfound, hsame⟩
  · rintro ⟨root, hroot, q, hfound, hsame⟩
    exact ⟨q, ⟨root, hroot, hfound⟩, hsame⟩

/-- The places do not depend on the order of roots, extensions and patterns, or on repetitions. -/
theorem map_components_discover_congr {roots' : List FilePath}
    {extensions' patterns' : List String} {s' : SourceSet}
    (h : build roots extensions patterns = .ok s) (h' : build roots' extensions' patterns' = .ok s')
    (hroots : ∀ root, root ∈ roots' ↔ root ∈ roots)
    (hextensions : ∀ extension, extension ∈ extensions' ↔ extension ∈ extensions)
    (hpatterns : ∀ pattern, pattern ∈ patterns' ↔ pattern ∈ patterns) :
    (s'.discover t).map FilePath.components = (s.discover t).map FilePath.components := by
  have hfound (root q : FilePath) :
      IsFound t extensions' patterns' root q ↔ IsFound t extensions patterns root q :=
    ⟨fun hfound => hfound.of_subset (fun e => (hextensions e).mp) fun e => (hpatterns e).mpr,
      fun hfound => hfound.of_subset (fun e => (hextensions e).mpr) fun e => (hpatterns e).mp⟩
  refine FilePath.map_components_sortedUnion_congr fun p => ?_
  refine FilePath.exists_mem_sortedUnion_iff.symm.trans
    (Iff.trans ?_ FilePath.exists_mem_sortedUnion_iff)
  refine (exists_mem_discover_iff h').trans (Iff.trans ?_ (exists_mem_discover_iff h).symm)
  simp only [hroots, hfound]

/-- **Discovery is the sorted union of its roots.** The discovered files are strictly increasing in
the order of paths. Their places are those of the files that are found from any of the roots, and
each of them is spelled as it was found. Roots, extensions and patterns in another order, or
repeated, make a source set again, with the same places in the same order; and with more patterns
there are no other places. -/
theorem discover_of_build (h : build roots extensions patterns = .ok s) (t : FileTree) :
    (s.discover t).Pairwise (fun p q => p.before q = true) ∧
    (∀ p, (∃ q ∈ s.discover t, q.samePlace p = true) ↔
      ∃ root ∈ roots, ∃ q, IsFound t extensions patterns root q ∧ q.samePlace p = true) ∧
    (∀ p ∈ s.discover t, ∃ root ∈ roots, IsFound t extensions patterns root p) ∧
    (∀ roots' extensions' patterns', (∀ root, root ∈ roots' ↔ root ∈ roots) →
      (∀ extension, extension ∈ extensions' ↔ extension ∈ extensions) →
      (∀ pattern, pattern ∈ patterns' ↔ pattern ∈ patterns) →
      ∃ s', build roots' extensions' patterns' = .ok s' ∧
        (s'.discover t).map FilePath.components = (s.discover t).map FilePath.components) ∧
    ∀ more s', patterns ⊆ more → build roots extensions more = .ok s' →
      ∀ p ∈ s'.discover t, ∃ q ∈ s.discover t, q.samePlace p = true := by
  refine ⟨FilePath.pairwise_sortedUnion _, fun p => exists_mem_discover_iff h,
    fun p hp => ?_, fun roots' extensions' patterns' hroots hextensions hpatterns => ?_,
    fun more s' hmore hbuild p hp => ?_⟩
  · obtain ⟨root, hroot, hfiles⟩ := List.mem_flatMap.mp (FilePath.mem_of_mem_sortedUnion hp)
    exact ⟨root, (build_eq_ok_iff.mp h).1 ▸ hroot, (mem_filesUnder_iff h).mp hfiles⟩
  · obtain ⟨s', hs'⟩ :=
      exists_build_of_subset h (fun pattern => (hpatterns pattern).mp) roots' extensions'
    exact ⟨s', hs', map_components_discover_congr h hs' hroots hextensions hpatterns⟩
  · obtain ⟨root, hroot, q, hfound, hsame⟩ :=
      (exists_mem_discover_iff hbuild).mp ⟨p, hp, FilePath.samePlace_iff.mpr rfl⟩
    exact (exists_mem_discover_iff h).mpr
      ⟨root, hroot, q, hfound.of_subset (List.Subset.refl _) hmore, hsame⟩

/-! ### A root inside another one

For an example: a root, another one below it, and a pattern that excludes the only file from the
first one. -/

/-- The roots. -/
def nestedRoots : List FilePath :=
  [⟨[FilePath.slash, 0x52]⟩, ⟨[FilePath.slash, 0x52, FilePath.slash, 0x53]⟩]

/-- A file below both. -/
def nestedPath : FilePath :=
  ⟨[FilePath.slash, 0x52, FilePath.slash, 0x53, FilePath.slash, 0x41, FilePath.dot, 0x62]⟩

/-- A tree with that file. -/
def nestedTree : FileTree :=
  ⟨.directory [([0x52], .directory [([0x53],
    .directory [([0x41, FilePath.dot, 0x62], .file [])])])]⟩

/-- The pattern as it is read. -/
def nestedGlob : Glob := ⟨[.literal 'S', .literal '/', .anyRun]⟩

/-- The source set of the example, with its one extension and its one pattern. -/
theorem build_nestedRoots :
    build nestedRoots ["..b", "."] ["S/*"] = .ok ⟨nestedRoots, ["b"], [nestedGlob]⟩ := by
  have hparse : Glob.parse false "S/*".toList = .ok nestedGlob := rfl
  refine build_eq_ok_iff.mpr ⟨rfl, by decide +kernel, ?_, by decide⟩
  rw [readPatterns, hparse]
  rfl

/-- The file is excluded from the first root, and discovered all the same. -/
theorem discover_nestedRoots :
    build nestedRoots ["..b", "."] ["S/*"] = .ok ⟨nestedRoots, ["b"], [nestedGlob]⟩ ∧
      nestedRoots.map (fun root => nestedGlob.accepts false (nestedPath.relativeTo root).bytes) =
        [true, false] ∧
      ∃ q ∈ discover ⟨nestedRoots, ["b"], [nestedGlob]⟩ nestedTree,
        q.samePlace nestedPath = true := by
  have hwalk : nestedTree.walkFrom ⟨[FilePath.slash, 0x52, FilePath.slash, 0x53]⟩ =
      [.file nestedPath] := by cbv
  have hmatches : nestedRoots.map
      (fun root => nestedGlob.accepts false (nestedPath.relativeTo root).bytes) =
        [true, false] := by decide
  refine ⟨build_nestedRoots, hmatches,
    ((discover_of_build build_nestedRoots nestedTree).2.1 nestedPath).mpr
      ⟨⟨[FilePath.slash, 0x52, FilePath.slash, 0x53]⟩, by simp [nestedRoots], nestedPath,
        ⟨by cbv, by simp [hwalk], ⟨"..b", by simp, by decide +kernel, by decide +kernel⟩, ?_⟩,
        by decide⟩⟩
  rw [← excludes_of_build build_nestedRoots]
  decide

end SourceSet

end PullDiagnostics
