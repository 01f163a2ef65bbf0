import PullDiagnostics.Proofs.FileTree.Spelling

/-!
# Content of files

Which place a path leads to depends on the directories and links of a tree and not on what its
files hold. So a file that can be read can be made to hold anything else, and every path still
leads where it did.

## Main results

* `walk_refill`: when all files are given the same content, paths lead where they did.
* `read_refill`: the files that could be read can be read then, and have that content.
-/

namespace PullDiagnostics

namespace FileNode

mutual

/-- A node with all files in it given the same content. -/
def refill (content : Bytes) : FileNode → FileNode
  | .file _ => .file content
  | .directory entries => .directory (refillEntries content entries)
  | .link target => .link target

/-- Entries with all files in them given the same content. -/
def refillEntries (content : Bytes) : List (Bytes × FileNode) → List (Bytes × FileNode)
  | [] => []
  | (name, node) :: rest => (name, refill content node) :: refillEntries content rest

end

/-- Refilling the files of a directory keeps its entries. -/
theorem child?_refillEntries (content name : Bytes) (entries : List (Bytes × FileNode)) :
    child? name (refillEntries content entries) = (child? name entries).map (refill content) := by
  induction entries with
  | nil => rfl
  | cons entry rest ih =>
      obtain ⟨n, node⟩ := entry
      by_cases h : n = name <;> simp [refillEntries, child?, h, ih]

/-- Refilling all files of a tree moves none of them. -/
theorem get?_refill (content : Bytes) (node : FileNode) (place : List Bytes) :
    (node.refill content).get? place = (node.get? place).map (refill content) := by
  induction place generalizing node with
  | nil => cases node <;> rfl
  | cons name rest ih =>
      cases node with
      | file _ => rfl
      | link _ => rfl
      | directory entries =>
          simp only [refill, get?, child?_refillEntries]
          cases child? name entries with
          | none => rfl
          | some child => exact ih child

end FileNode

namespace FileTree

/-- A tree with all files in it given the same content. -/
def refill (t : FileTree) (content : Bytes) : FileTree :=
  ⟨t.root.refill content⟩

/-- What the files hold does not matter to where pieces lead. -/
theorem walk_refill (content : Bytes) (root : FileNode) (how : Follow) (links : ℕ)
    (place parts : List Bytes) :
    walk (root.refill content) how links place parts = walk root how links place parts := by
  fun_induction walk root how links place parts
  case case1 => rw [walk]
  case case9 piece rest entries hplace hpiece hparent hlong target hchild hlast links start ih =>
    rw [walk, FileNode.get?_refill, hplace]
    simp only [*, Option.map_some, FileNode.refill, FileNode.child?_refillEntries,
      Bool.false_eq_true, ↓reduceIte]
    exact ih
  case case10 piece rest entries hplace hpiece hparent hlong node hlink hchild ih =>
    rw [walk, FileNode.get?_refill, hplace]
    cases node with
    | link target => exact absurd rfl (hlink target)
    | file _ | directory _ =>
        simp only [*, Option.map_some, FileNode.refill, FileNode.child?_refillEntries,
          Bool.false_eq_true, ↓reduceIte]
  case case11 piece rest node hnode hplace =>
    rw [walk, FileNode.get?_refill, hplace]
    cases node with
    | directory entries => exact absurd rfl (hnode entries)
    | file _ | link _ => rfl
  all_goals
    rw [walk, FileNode.get?_refill]
    simp only [*, Option.map_some, Option.map_none, FileNode.refill,
      FileNode.child?_refillEntries, Bool.false_eq_true, ↓reduceIte]

/-- What the files hold does not matter to where a path leads. -/
theorem locate_refill (t : FileTree) (content : Bytes) (p : FilePath) (how : Follow) :
    (t.refill content).locate p how = t.locate p how := by
  simp only [locate, refill, walk_refill]

/-- A file that can be read can be read after all files were given a content, and has it. -/
theorem read_refill {t : FileTree} {p : FilePath} {old : Bytes} (h : t.read p = .ok old)
    (content : Bytes) : (t.refill content).read p = .ok content := by
  obtain ⟨place, hplace, hfile⟩ := read_eq_ok_iff.mp h
  refine read_eq_ok_iff.mpr ⟨place, (locate_refill t content p {}).trans hplace, ?_⟩
  rw [refill, FileNode.get?_refill, hfile]
  rfl

end FileTree

end PullDiagnostics
