import Mathlib.Data.List.Induction
import PullDiagnostics.Proofs.FileTree.Spelling
import PullDiagnostics.Proofs.Text.LineEnds

/-!
# Names in a path

Behind its root an absolute path says names and two dots, whatever idle pieces it is spelled with.
Names with a slash before each of them are a path that says just these names; a slash more at its
end says nothing.

## Main results

* `dot_mem_of_extension?`: an extension needs a dot.
* `eq_parent_or_isName`: what an absolute path says.
* `components_flatMap`: what a path that is made of names says.
-/

namespace PullDiagnostics.FilePath

/-- Whether a piece of a path names something. -/
structure IsName (name : Bytes) : Prop where
  slash_not_mem : slash ∉ name
  not_idle : isIdle name = false
  ne_dots : name ≠ [dot, dot]

/-! ### Pieces -/

/-- Splitting gives back what slashes were put before. -/
theorem splitOn_flatMap {names : List Bytes} (h : ∀ name ∈ names, slash ∉ name) :
    (names.flatMap (slash :: ·)).splitOn slash = [] :: names := by
  induction names using List.reverseRecOn with
  | nil => rfl
  | append_singleton before last ih =>
      rw [List.flatMap_append, List.flatMap_singleton, List.splitOn_append_cons_self,
        ih fun name hname => h name (List.mem_append_left _ hname),
        List.splitOn_eq_singleton (h last (by simp)), List.cons_append]

/-! ### Components -/

/-- What stands in a name of a path stands in the path. -/
theorem mem_of_name_mem_components {p : FilePath} {name : Bytes} {b : UInt8}
    (hname : .name name ∈ p.components) (hb : b ∈ name) : b ∈ p.bytes := by
  have hnames {parts : List Bytes} (h : .name name ∈ namesOf parts) : name ∈ parts := by
    obtain ⟨piece, hpiece, hname⟩ := List.mem_map.mp h
    unfold componentOf at hname
    split at hname <;> cases hname
    exact (List.mem_filter.mp hpiece).1
  have hpieces : name ∈ p.bytes.splitOn slash := by
    unfold components at hname
    split at hname
    next => cases hname
    next first rest hpieces =>
      rw [hpieces]
      split at hname
      next =>
        split at hname
        · cases hname
        · refine List.mem_cons_of_mem first (hnames ?_)
          simpa using hname
      next =>
        split at hname
        · refine List.mem_cons_of_mem first (hnames ?_)
          simpa using hname
        · exact hnames hname
  exact Text.mem_of_mem_splitOn hpieces hb

/-- A name with an extension has a dot. -/
theorem dot_mem_of_cutName {name : Bytes} (h : (cutName name).2.isSome = true) : dot ∈ name := by
  refine Decidable.byContradiction fun hno => ?_
  have hother : ∀ b ∈ name.reverse, (b != dot) = true := by
    intro b hb
    rw [bne_iff_ne]
    rintro rfl
    exact hno (List.mem_reverse.mp hb)
  have hall : name.reverse.takeWhile (· != dot) = name.reverse := by
    simpa using @List.takeWhile_append_of_pos _ _ _ [] hother
  simp [cutName, hall] at h

/-- A path with an extension has a dot. -/
theorem dot_mem_of_extension? {p : FilePath} (h : p.extension?.isSome = true) : dot ∈ p.bytes := by
  obtain ⟨extension, hextension⟩ := Option.isSome_iff_exists.mp h
  obtain ⟨name, hname, hcut⟩ := Option.bind_eq_some_iff.mp hextension
  have hlast : .name name ∈ p.components := by
    unfold fileName? at hname
    split at hname <;> cases hname
    next hlast => exact List.mem_of_getLast? hlast
  exact mem_of_name_mem_components hlast (dot_mem_of_cutName (by rw [hcut]; rfl))

theorem namesOf_append (a b : List Bytes) : namesOf (a ++ b) = namesOf a ++ namesOf b := by
  simp [namesOf]

/-- Names say what they are. -/
theorem namesOf_of_isName {names : List Bytes} (h : ∀ name ∈ names, IsName name) :
    namesOf names = names.map .name := by
  have hkept : names.filter (!isIdle ·) = names :=
    List.filter_eq_self.mpr fun name hname => by rw [(h name hname).not_idle]; rfl
  rw [namesOf, hkept]
  exact List.map_congr_left fun name hname => if_neg (h name hname).ne_dots

/-- **What an absolute path says** behind its root: two dots or a name, every time. -/
theorem eq_parent_or_isName {p : FilePath} (hp : p.isAbsolute = true) {c : Component}
    (hc : c ∈ p.components.tail) : c = .parent ∨ ∃ name, IsName name ∧ c = .name name := by
  rw [components_of_isAbsolute hp, List.tail_cons] at hc
  obtain ⟨piece, hpiece, rfl⟩ := List.mem_map.mp hc
  obtain ⟨hpiece, hidle⟩ := List.mem_filter.mp hpiece
  by_cases hdots : piece = [dot, dot]
  · exact .inl (if_pos hdots)
  · exact .inr ⟨piece, ⟨Text.not_mem_of_mem_splitOn hpiece, by simpa using hidle, hdots⟩,
      if_neg hdots⟩

/-- Names with a slash before each are an absolute path. -/
theorem isAbsolute_flatMap {names : List Bytes} (h : names ≠ []) :
    (FilePath.mk (names.flatMap (slash :: ·))).isAbsolute = true := by
  obtain ⟨first, others, rfl⟩ := List.exists_cons_of_ne_nil h
  simp [isAbsolute]

/-- Bytes added at the end do not change where a path starts. -/
theorem isAbsolute_append {bytes : Bytes} (h : (FilePath.mk bytes).isAbsolute = true)
    (rest : Bytes) : (FilePath.mk (bytes ++ rest)).isAbsolute = true := by
  cases bytes with
  | nil => cases h
  | cons b more => exact h

/-- **Paths made of names.** They say just these names. -/
theorem components_flatMap {names : List Bytes} (h : ∀ name ∈ names, IsName name)
    (hne : names ≠ []) :
    (FilePath.mk (names.flatMap (slash :: ·))).components = .root :: names.map .name := by
  have hpieces : (names.flatMap (slash :: ·)).splitOn slash = [[]] ++ names :=
    splitOn_flatMap fun name hname => (h name hname).slash_not_mem
  rw [components_of_isAbsolute (isAbsolute_flatMap hne), hpieces, namesOf_append,
    namesOf_of_isName h]
  rfl

/-- A slash at the end says nothing. -/
theorem components_append_slash {bytes : Bytes} (h : (FilePath.mk bytes).isAbsolute = true) :
    (FilePath.mk (bytes ++ [slash])).components = (FilePath.mk bytes).components := by
  rw [components_of_isAbsolute (isAbsolute_append h [slash]), components_of_isAbsolute h,
    List.splitOn_append_cons_self, namesOf_append, List.splitOn_nil,
    show namesOf [[]] = [] from rfl, List.append_nil]

end PullDiagnostics.FilePath
