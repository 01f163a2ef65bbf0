import Mathlib.Data.List.Basic
import PullDiagnostics.FileTree.Basic

/-!
# Spellings of a path

A path can be spelled with more slashes than it needs, and with dots between them. Such a
spelling may lead nowhere where another one leads to a file, since a file has nothing below it,
not even a dot. But two spellings with the same components never lead to different places.

## Main results

* `filter_splitOn_eq_of_samePlace`: absolute paths with the same components have the same
  pieces, but for those that mean nothing.
* `walk_eq_of_filter_eq`: such pieces lead to the same place if both lead anywhere.
* `read_eq_of_samePlace`: spellings of one path that can be read have the same content.
-/

namespace PullDiagnostics

namespace FilePath

/-- Two spellings name the same place if their components agree. -/
theorem samePlace_iff {p q : FilePath} : p.samePlace q = true ↔ p.components = q.components :=
  beq_iff_eq

/-- Different pieces are different components. -/
theorem componentOf_injective : Function.Injective componentOf := by
  intro a b h
  unfold componentOf at h
  split at h <;> split at h
  case isTrue.isTrue ha hb => exact ha.trans hb.symm
  case isTrue.isFalse => cases h
  case isFalse.isTrue => cases h
  case isFalse.isFalse => exact Component.name.inj h

/-- What the components of an absolute path are. -/
theorem components_of_isAbsolute {p : FilePath} (h : p.isAbsolute = true) :
    p.components = .root :: namesOf (p.bytes.splitOn slash) := by
  obtain ⟨bytes⟩ := p
  cases bytes with
  | nil => simp [isAbsolute] at h
  | cons b rest =>
      obtain rfl : b = slash := by simpa [isAbsolute] using h
      simp [components, List.splitOn_cons_eq_if_modifyHead, List.splitOn_ne_nil, namesOf, isIdle]

/-- Absolute paths with the same components have the same pieces, but for idle ones. -/
theorem filter_splitOn_eq_of_samePlace {p q : FilePath} (hp : p.isAbsolute = true)
    (hq : q.isAbsolute = true) (h : p.samePlace q = true) :
    (p.bytes.splitOn slash).filter (!isIdle ·) = (q.bytes.splitOn slash).filter (!isIdle ·) := by
  have hnames : namesOf (p.bytes.splitOn slash) = namesOf (q.bytes.splitOn slash) := by
    have heq : p.components = q.components := samePlace_iff.mp h
    rw [components_of_isAbsolute hp, components_of_isAbsolute hq] at heq
    exact (List.cons.inj heq).2
  exact (List.map_injective_iff.mpr componentOf_injective) hnames

end FilePath

namespace FileTree

open FilePath (isIdle)

/-- In a directory, idle pieces lead nowhere else. -/
theorem walk_append_of_idle {root : FileNode} {how : Follow} {links : ℕ} {place : List Bytes}
    {entries : List (Bytes × FileNode)} (hplace : root.get? place = some (.directory entries))
    {idle : List Bytes} (hidle : ∀ piece ∈ idle, isIdle piece = true) (rest : List Bytes) :
    walk root how links place (idle ++ rest) = walk root how links place rest := by
  induction idle with
  | nil => rfl
  | cons piece others ih =>
      have hpiece : isIdle piece = true := hidle piece (List.mem_cons_self ..)
      rw [List.cons_append, walk, hplace]
      simp only [hpiece, if_true]
      exact ih fun other hother => hidle other (List.mem_cons_of_mem piece hother)

/-- Idle pieces lead nowhere else, if they lead anywhere. -/
theorem walk_of_idle {root : FileNode} {how : Follow} {links : ℕ} {place found : List Bytes}
    {idle : List Bytes} (hidle : ∀ piece ∈ idle, isIdle piece = true)
    (h : walk root how links place idle = .ok found) : found = place := by
  induction idle with
  | nil =>
      rw [walk] at h
      exact (Except.ok.inj h).symm
  | cons piece others ih =>
      have hpiece : isIdle piece = true := hidle piece (List.mem_cons_self ..)
      rw [walk] at h
      split at h
      next =>
        simp only [hpiece, if_true] at h
        exact ih (fun other hother => hidle other (List.mem_cons_of_mem piece hother)) h
      next => cases h
      next => cases h

/-- In a directory, a piece that is not idle is reached past the idle ones before it. -/
theorem exists_walk_eq_of_filter_eq {root : FileNode} {place : List Bytes}
    {entries : List (Bytes × FileNode)} (hplace : root.get? place = some (.directory entries))
    {piece : Bytes} (hpiece : ¬ isIdle piece = true) {rest others : List Bytes}
    (h : (piece :: rest).filter (!isIdle ·) = others.filter (!isIdle ·)) (how : Follow)
    (links : ℕ) :
    ∃ more, rest.filter (!isIdle ·) = more.filter (!isIdle ·) ∧
      walk root how links place others = walk root how links place (piece :: more) := by
  rw [List.filter_cons_of_pos (by simpa using hpiece)] at h
  obtain ⟨idle, more, rfl, hidle, -, hmore⟩ := List.filter_eq_cons_iff.mp h.symm
  exact ⟨more, hmore.symm, walk_append_of_idle hplace (by simpa using hidle) _⟩

/-- Pieces that are the same but for idle ones lead to the same place, if both lead
anywhere. -/
theorem walk_eq_of_filter_eq {root : FileNode} {links : ℕ} {place parts others : List Bytes}
    {a b : List Bytes} (ha : walk root {} links place parts = .ok a)
    (hb : walk root {} links place others = .ok b)
    (h : parts.filter (!isIdle ·) = others.filter (!isIdle ·)) : a = b := by
  fun_induction walk root {} links place parts generalizing others
  case case1 =>
    have hidle : ∀ piece ∈ others, isIdle piece = true := by
      simpa using List.filter_eq_nil_iff.mp h.symm
    exact (Except.ok.inj ha).symm.trans (walk_of_idle hidle hb).symm
  case case2 piece rest entries hplace hidle ih =>
    rw [List.filter_cons_of_neg (by simpa using hidle)] at h
    exact ih ha hb h
  case case3 rest entries hplace hpiece ih =>
    obtain ⟨more, hmore, hwalk⟩ := exists_walk_eq_of_filter_eq hplace hpiece h {} _
    rw [hwalk, walk, hplace] at hb
    simp only [hpiece, if_true] at hb
    exact ih ha hb hmore
  case case9 piece rest entries hplace hpiece hparent hlong target hchild hlast links start ih =>
    -- What the link says comes before the rest, however that is spelled.
    obtain ⟨more, hmore, hwalk⟩ := exists_walk_eq_of_filter_eq hplace hpiece h {} _
    rw [hwalk, walk, hplace] at hb
    simp only [hpiece, hparent, hlong, hchild, if_false, Bool.not_true, Bool.and_false] at hb
    exact ih ha hb (by rw [List.filter_append, List.filter_append, hmore])
  case case10 piece rest entries hplace hpiece hparent hlong node hlink hchild ih =>
    obtain ⟨more, hmore, hwalk⟩ := exists_walk_eq_of_filter_eq hplace hpiece h {} _
    rw [hwalk, walk, hplace] at hb
    simp only [hpiece, hparent, hlong, hchild, if_false] at hb
    exact ih ha hb hmore
  all_goals simp_all

/-- A path that leads to a place is absolute, and its pieces lead there from the root. -/
theorem walk_of_locate {t : FileTree} {p : FilePath} {how : Follow} {place : List Bytes}
    (h : t.locate p how = .ok place) :
    p.isAbsolute = true ∧
      walk t.root how maxLinks [] (p.bytes.splitOn FilePath.slash) = .ok place := by
  unfold locate at h
  split_ifs at h with _ _ habsolute
  exact ⟨habsolute, h⟩

/-- Spellings of one path that lead to a place lead to the same place. -/
theorem locate_eq_of_samePlace {t : FileTree} {p q : FilePath} {a b : List Bytes}
    (ha : t.locate p {} = .ok a) (hb : t.locate q {} = .ok b) (h : p.samePlace q = true) :
    a = b := by
  obtain ⟨hp, hwalkp⟩ := walk_of_locate ha
  obtain ⟨hq, hwalkq⟩ := walk_of_locate hb
  exact walk_eq_of_filter_eq hwalkp hwalkq (FilePath.filter_splitOn_eq_of_samePlace hp hq h)

/-- Spellings of one path that can be read have the same content. -/
theorem read_eq_of_samePlace {t : FileTree} {p q : FilePath} {a b : Bytes}
    (ha : t.read p = .ok a) (hb : t.read q = .ok b) (h : p.samePlace q = true) : a = b := by
  obtain ⟨place, hplace, hfile⟩ := read_eq_ok_iff.mp ha
  obtain ⟨place', hplace', hfile'⟩ := read_eq_ok_iff.mp hb
  obtain rfl := locate_eq_of_samePlace hplace hplace' h
  exact FileNode.file.inj (Option.some.inj (hfile.symm.trans hfile'))

end FileTree

end PullDiagnostics
