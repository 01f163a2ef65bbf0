import Mathlib.Data.List.Induction
import Mathlib.Data.List.Lex
import Mathlib.Data.List.Sort
import PullDiagnostics.Proofs.FileTree.Spelling

/-!
# The order of paths

Paths are ordered by their components, and two spellings of the same components are neither before
the other. To compare components is to compare lists of numbers, and so the order is a strict
linear one on what paths say. A sorted union of paths is increasing in it and has one path for each
place, so that it depends on nothing but the places that its paths have.

## Main results

* `FilePath.before_iff_numbers_lt`: the order of paths is that of lists of numbers.
* `FilePath.pairwise_sortedUnion`: a sorted union is strictly increasing.
* `FilePath.exists_mem_sortedUnion_iff`: the places of a sorted union.
* `FilePath.map_components_sortedUnion_congr`: a sorted union depends on the places only.
-/

namespace PullDiagnostics

/-! ### Comparisons as comparisons of numbers -/

/-- Bytes are ordered as the lists of their numbers are. -/
theorem Bytes.before_iff_map_toNat_lt {a b : Bytes} :
    Bytes.before a b = true ↔ a.map UInt8.toNat < b.map UInt8.toNat := by
  induction a generalizing b with
  | nil => cases b <;> simp [Bytes.before]
  | cons x a ih =>
      cases b with
      | nil => simp [Bytes.before]
      | cons y b =>
          rw [Bytes.before, List.map_cons, List.map_cons, List.cons_lt_cons_iff]
          by_cases hxy : x = y
          · simp [hxy, ih]
          · simp [hxy, UInt8.toNat_inj, UInt8.lt_iff_toNat_lt]

namespace Component

/-- What a component is compared by: the number of its kind, and the bytes of a name. -/
def numbers : Component → List ℕ
  | .name bytes => 3 :: bytes.map UInt8.toNat
  | .root => [0]
  | .here => [1]
  | .parent => [2]

/-- No two components have the same numbers. -/
theorem numbers_injective : Function.Injective numbers := by
  have hbytes : Function.Injective (List.map UInt8.toNat) :=
    List.map_injective_iff.mpr fun _ _ => UInt8.toNat_inj.mp
  intro a b h
  cases a <;> cases b <;> simp_all [numbers, hbytes.eq_iff]

/-- Components are ordered as their numbers are, the kinds that are not names coming first. -/
theorem before_iff_numbers_lt {a b : Component} :
    a.before b = true ↔ a.numbers < b.numbers := by
  cases a with
  | name x =>
      cases b with
      | name y => simp [before, numbers, Bytes.before_iff_map_toNat_lt]
      | root | here | parent => simp [before, rank, numbers, List.cons_lt_cons_iff]
  | root | here | parent => cases b <;> simp [before, rank, numbers, List.cons_lt_cons_iff]

/-- Lists of components are ordered as those of their numbers are. -/
theorem listBefore_iff_map_numbers_lt {as bs : List Component} :
    listBefore as bs = true ↔ as.map numbers < bs.map numbers := by
  induction as generalizing bs with
  | nil => cases bs <;> simp [listBefore]
  | cons a as ih =>
      cases bs with
      | nil => simp [listBefore]
      | cons b bs =>
          rw [listBefore, List.map_cons, List.map_cons, List.cons_lt_cons_iff]
          by_cases hab : a = b
          · simp [hab, ih]
          · simp [hab, numbers_injective.eq_iff, before_iff_numbers_lt]

end Component

namespace FilePath

variable {p q : FilePath} {paths others : List FilePath}

/-- What a path is compared by. -/
def numbers (p : FilePath) : List (List ℕ) :=
  p.components.map Component.numbers

/-- Paths are ordered by the numbers of their components. -/
theorem before_iff_numbers_lt : p.before q = true ↔ p.numbers < q.numbers :=
  Component.listBefore_iff_map_numbers_lt

/-- Paths of the same components have the same numbers. -/
theorem samePlace_iff_numbers_eq : p.samePlace q = true ↔ p.numbers = q.numbers :=
  samePlace_iff.trans (List.map_injective_iff.mpr Component.numbers_injective).eq_iff.symm

/-! ### Sorted unions -/

/-- An insertion adds nothing but the inserted path. -/
theorem mem_of_mem_insertSorted (h : q ∈ insertSorted p paths) : q = p ∨ q ∈ paths := by
  induction paths with
  | nil => exact .inl (List.mem_singleton.mp h)
  | cons first rest ih =>
      rw [insertSorted] at h
      split at h
      next => exact List.mem_cons.mp h
      next =>
        split at h
        next =>
          rcases List.mem_cons.mp h with rfl | h
          · exact .inr (List.mem_cons_self ..)
          · exact (ih h).imp_right (List.mem_cons_of_mem first)
        next => exact .inr h

/-- The union holds no path that was not given. -/
theorem mem_of_mem_sortedUnion (h : p ∈ sortedUnion paths) : p ∈ paths := by
  induction paths using List.reverseRecOn with
  | nil => cases h
  | append_singleton paths q ih =>
      rw [sortedUnion, List.foldl_concat] at h
      rcases mem_of_mem_insertSorted h with rfl | h
      · exact List.mem_append_right _ (List.mem_singleton_self _)
      · exact List.mem_append_left _ (ih h)

/-- After an insertion its place is held, by the inserted path or by one that was there before.
-/
theorem mem_map_numbers_insertSorted {place : List (List ℕ)} :
    place ∈ (insertSorted p paths).map numbers ↔ place = p.numbers ∨ place ∈ paths.map numbers := by
  induction paths with
  | nil => simp [insertSorted]
  | cons q rest ih =>
      unfold insertSorted
      split
      next => simp
      next hpq =>
        split
        next => rw [List.map_cons, List.mem_cons, ih, List.map_cons, List.mem_cons, or_left_comm]
        next hqp =>
          -- Neither comes before the other, so the place of `p` is taken.
          rw [before_iff_numbers_lt, not_lt] at hpq hqp
          simp [le_antisymm hqp hpq]

/-- An insertion keeps the order, and no place comes twice. -/
theorem sortedLT_insertSorted (h : (paths.map numbers).SortedLT) :
    ((insertSorted p paths).map numbers).SortedLT := by
  induction paths with
  | nil => exact (List.pairwise_singleton _ _).sortedLT
  | cons q rest ih =>
      obtain ⟨hq, hrest⟩ := List.pairwise_cons.mp h.pairwise
      unfold insertSorted
      split
      next hpq =>
        rw [before_iff_numbers_lt] at hpq
        refine (List.pairwise_cons.mpr ⟨fun place hplace => ?_, h.pairwise⟩).sortedLT
        rcases List.mem_cons.mp hplace with rfl | hplace
        · exact hpq
        · exact hpq.trans (hq place hplace)
      next =>
        split
        next hqp =>
          rw [before_iff_numbers_lt] at hqp
          refine
            (List.pairwise_cons.mpr ⟨fun place hplace => ?_, (ih hrest.sortedLT).pairwise⟩).sortedLT
          rcases mem_map_numbers_insertSorted.mp hplace with rfl | hplace
          · exact hqp
          · exact hq place hplace
        next => exact h

/-- The union holds the places that were given. -/
theorem mem_map_numbers_sortedUnion {place : List (List ℕ)} :
    place ∈ (sortedUnion paths).map numbers ↔ place ∈ paths.map numbers := by
  induction paths using List.reverseRecOn with
  | nil => rfl
  | append_singleton paths p ih =>
      rw [sortedUnion, List.foldl_concat, mem_map_numbers_insertSorted]
      simp [← ih, sortedUnion, or_comm]

/-- The union is in order and holds no place twice. -/
theorem sortedLT_sortedUnion (paths : List FilePath) :
    ((sortedUnion paths).map numbers).SortedLT := by
  induction paths using List.reverseRecOn with
  | nil => exact List.Pairwise.nil.sortedLT
  | append_singleton paths p ih =>
      rw [sortedUnion, List.foldl_concat]
      exact sortedLT_insertSorted ih

/-- **A sorted union is strictly increasing.** -/
theorem pairwise_sortedUnion (paths : List FilePath) :
    (sortedUnion paths).Pairwise fun p q => p.before q = true :=
  (List.pairwise_map.mp (sortedLT_sortedUnion paths).pairwise).imp before_iff_numbers_lt.mpr

/-- **The places of a sorted union** are those of its paths. -/
theorem exists_mem_sortedUnion_iff :
    (∃ q ∈ sortedUnion paths, q.samePlace p = true) ↔ ∃ q ∈ paths, q.samePlace p = true := by
  simpa [samePlace_iff_numbers_eq] using @mem_map_numbers_sortedUnion paths p.numbers

/-- A sorted union depends on nothing but the places of its paths. -/
theorem map_components_sortedUnion_congr
    (h : ∀ p, (∃ q ∈ paths, q.samePlace p = true) ↔ ∃ q ∈ others, q.samePlace p = true) :
    (sortedUnion paths).map components = (sortedUnion others).map components := by
  have hsame : (sortedUnion paths).map numbers = (sortedUnion others).map numbers := by
    refine (sortedLT_sortedUnion paths).eq_of_mem_iff (sortedLT_sortedUnion others) fun place => ?_
    rw [mem_map_numbers_sortedUnion, mem_map_numbers_sortedUnion]
    simp only [samePlace_iff_numbers_eq] at h
    constructor <;> intro hplace <;> obtain ⟨p, hp, rfl⟩ := List.mem_map.mp hplace
    · exact List.mem_map.mpr ((h p).mp ⟨p, hp, rfl⟩)
    · exact List.mem_map.mpr ((h p).mpr ⟨p, hp, rfl⟩)
  have hnumbers : Function.Injective (List.map Component.numbers) :=
    List.map_injective_iff.mpr Component.numbers_injective
  refine List.map_injective_iff.mpr hnumbers ?_
  rw [List.map_map, List.map_map]
  exact hsame

end FilePath

end PullDiagnostics
