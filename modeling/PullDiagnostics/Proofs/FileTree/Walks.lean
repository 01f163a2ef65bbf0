import PullDiagnostics.FileTree.Walk
import PullDiagnostics.Proofs.FileTree.Descent

/-!
# What a walk meets

In a tree whose entries have names that can stand between slashes, every file that a walk meets is
spelled as the start of the walk with names below it. Trees are of this kind for good: an entry gets
the name that stood at the end of a path, or at the end of a link's target.

## Main results

* `FileNode.WellNamed`: names at all entries of a node.
* `FileTree.isName_of_walk`: pieces lead to a place with a name at every step.
* `FileTree.WellNamed.writeFile`, `FileTree.WellNamed.makeLink`, `FileTree.WellNamed.delete`,
  `FileTree.WellNamed.makeDirectory`: whatever is done to a tree leaves names at its entries.
* `FileTree.exists_descend_of_mem_walkFrom`: how the files that a walk meets are spelled.
-/

namespace PullDiagnostics

open FilePath (IsName)

instance FilePath.decidableIsName (name : Bytes) : Decidable (IsName name) :=
  decidable_of_iff (FilePath.slash ∉ name ∧ FilePath.isIdle name = false ∧
      name ≠ [FilePath.dot, FilePath.dot])
    ⟨fun h => ⟨h.1, h.2.1, h.2.2⟩, fun h => ⟨h.slash_not_mem, h.not_idle, h.ne_dots⟩⟩

namespace FileNode

/-! ### Names at the entries -/

mutual

/-- Whether all entries of a node, and all below them, have names. -/
def WellNamed : FileNode → Prop
  | .directory entries => EntriesWellNamed entries
  | _ => True

/-- Whether entries, and all below them, have names. -/
def EntriesWellNamed : List (Bytes × FileNode) → Prop
  | [] => True
  | (name, node) :: rest => IsName name ∧ WellNamed node ∧ EntriesWellNamed rest

end

/-- Every entry among well named ones has a name and a well named node. -/
theorem EntriesWellNamed.of_mem {entries : List (Bytes × FileNode)} (h : EntriesWellNamed entries)
    {name : Bytes} {node : FileNode} (hmem : (name, node) ∈ entries) :
    IsName name ∧ WellNamed node := by
  induction entries with
  | nil => cases hmem
  | cons entry rest ih =>
      obtain ⟨n, first⟩ := entry
      rcases List.mem_cons.mp hmem with heq | hmem
      · obtain ⟨rfl, rfl⟩ := Prod.mk.inj heq
        exact ⟨h.1, h.2.1⟩
      · exact ih h.2.2 hmem

/-- A child that is found is among the entries. -/
theorem mem_of_child? {entries : List (Bytes × FileNode)} {name : Bytes} {node : FileNode}
    (h : child? name entries = some node) : (name, node) ∈ entries := by
  induction entries with
  | nil => cases h
  | cons entry rest ih =>
      obtain ⟨n, first⟩ := entry
      rw [child?] at h
      split at h
      next hn =>
        rw [hn, Option.some.inj h]
        exact List.mem_cons_self ..
      next => exact List.mem_cons_of_mem _ (ih h)

/-- Every node below a well named one is well named. -/
theorem WellNamed.get? {node a : FileNode} (h : WellNamed node) {place : List Bytes}
    (hplace : node.get? place = some a) : WellNamed a := by
  induction place generalizing node with
  | nil => cases node <;> exact Option.some.inj hplace ▸ h
  | cons name rest ih =>
      cases node with
      | file _ | link _ => cases hplace
      | directory entries =>
          obtain ⟨child, hchild, hrest⟩ := Option.bind_eq_some_iff.mp hplace
          exact ih (EntriesWellNamed.of_mem h (mem_of_child? hchild)).2 hrest

/-! ### Changed entries -/

/-- A well named entry may be put among others. -/
theorem EntriesWellNamed.putEntry {entries : List (Bytes × FileNode)}
    (h : EntriesWellNamed entries) {name : Bytes} (hname : IsName name) {node : FileNode}
    (hnode : WellNamed node) : EntriesWellNamed (putEntry name node entries) := by
  induction entries with
  | nil => exact ⟨hname, hnode, trivial⟩
  | cons entry rest ih =>
      obtain ⟨n, old⟩ := entry
      rw [FileNode.putEntry]
      split
      · exact ⟨hname, hnode, h.2.2⟩
      · exact ⟨h.1, h.2.1, ih h.2.2⟩

/-- Dropping an entry leaves the names of the others. -/
theorem EntriesWellNamed.dropEntry {entries : List (Bytes × FileNode)}
    (h : EntriesWellNamed entries) (name : Bytes) : EntriesWellNamed (dropEntry name entries) := by
  induction entries with
  | nil => trivial
  | cons entry rest ih =>
      obtain ⟨n, old⟩ := entry
      simp only [FileNode.dropEntry, List.filter_cons]
      split
      · exact ⟨h.1, h.2.1, ih h.2.2⟩
      · exact ih h.2.2

/-- A change of one directory that keeps names legal keeps those of the whole tree legal. -/
theorem WellNamed.alter {node : FileNode} (h : WellNamed node) (place : List Bytes)
    {f : List (Bytes × FileNode) → List (Bytes × FileNode)}
    (hf : ∀ entries, EntriesWellNamed entries → EntriesWellNamed (f entries)) :
    WellNamed (node.alter place f) := by
  induction place generalizing node with
  | nil =>
      cases node with
      | file _ | link _ => trivial
      | directory entries => exact hf entries h
  | cons name rest ih =>
      cases node with
      | file _ | link _ => trivial
      | directory entries =>
          rw [FileNode.alter]
          split
          next child hchild =>
            obtain ⟨hname, hnode⟩ := EntriesWellNamed.of_mem h (mem_of_child? hchild)
            exact EntriesWellNamed.putEntry h hname (ih hnode)
          next => exact h

end FileNode

namespace FileTree

/-- Whether all entries of a tree have names. -/
def WellNamed (t : FileTree) : Prop :=
  t.root.WellNamed

/-! ### Places -/

/-- **A place that is led to** has a name at every step. -/
theorem isName_of_walk {root : FileNode} {how : Follow} {links : ℕ} {place parts found : List Bytes}
    (hplace : ∀ name ∈ place, IsName name) (hparts : ∀ piece ∈ parts, FilePath.slash ∉ piece)
    (h : walk root how links place parts = .ok found) : ∀ name ∈ found, IsName name := by
  have hrest {piece : Bytes} {rest : List Bytes}
      (hpieces : ∀ other ∈ piece :: rest, FilePath.slash ∉ other) :
      ∀ other ∈ rest, FilePath.slash ∉ other := fun other hother =>
    hpieces other (List.mem_cons_of_mem piece hother)
  -- A piece that is a step down is a name.
  have hstep {place rest : List Bytes} {piece : Bytes} (hplace : ∀ name ∈ place, IsName name)
      (hpieces : ∀ other ∈ piece :: rest, FilePath.slash ∉ other)
      (hpiece : ¬ FilePath.isIdle piece = true)
      (hparent : ¬ piece = [FilePath.dot, FilePath.dot]) :
      ∀ name ∈ place ++ [piece], IsName name := by
    intro name hname
    rcases List.mem_append.mp hname with hname | hname
    · exact hplace name hname
    · rw [List.mem_singleton.mp hname]
      exact ⟨hpieces piece (List.mem_cons_self ..), by simpa using hpiece, hparent⟩
  fun_induction walk root how links place parts
  case case1 => exact Except.ok.inj h ▸ hplace
  case case2 ih => exact ih hplace (hrest hparts) h
  case case3 ih =>
    exact ih (fun name hname => hplace name (List.dropLast_subset _ hname)) (hrest hparts) h
  case case5 hpiece hparent _ _ _ =>
    exact Except.ok.inj h ▸ hstep hplace hparts hpiece hparent
  case case7 hpiece hparent _ _ _ _ =>
    exact Except.ok.inj h ▸ hstep hplace hparts hpiece hparent
  case case9 place piece rest _ hnode hpiece hparent hlong target hchild hlast links start ih =>
    refine ih (fun name hname => ?_) (fun other hother => ?_) h
    · by_cases habsolute : target.head? = some FilePath.slash
      · simp [start, habsolute] at hname
      · exact hplace name (by simpa [start, habsolute] using hname)
    · rcases List.mem_append.mp hother with hother | hother
      · exact Text.not_mem_of_mem_splitOn hother
      · exact hrest hparts other hother
  case case10 hpiece hparent _ _ _ _ ih =>
    exact ih (hstep hplace hparts hpiece hparent) (hrest hparts) h
  all_goals cases h

/-- A path is resolved to a place made of names. -/
theorem isName_of_locate {t : FileTree} {p : FilePath} {how : Follow} {place : List Bytes}
    (h : t.locate p how = .ok place) : ∀ name ∈ place, IsName name :=
  isName_of_walk (by simp) (fun _ => Text.not_mem_of_mem_splitOn) (walk_of_locate h).2

/-! ### Changed trees -/

theorem wellNamed_empty : ({} : FileTree).WellNamed :=
  trivial

namespace WellNamed

variable {t later : FileTree} {p : FilePath}

/-- Putting a node at a place of names keeps a tree well named. -/
theorem put (h : t.WellNamed) {place : List Bytes} (hplace : ∀ name ∈ place, IsName name)
    {node : FileNode} (hnode : node.WellNamed) : (t.put place node).WellNamed := by
  unfold FileTree.put
  split
  next => exact h
  next name hlast =>
    exact FileNode.WellNamed.alter h _ fun entries hentries =>
      hentries.putEntry (hplace name (List.mem_of_getLast? hlast)) hnode

/-- Writing a file keeps a tree well named. -/
theorem writeFile (h : t.WellNamed) {content : Bytes}
    (hwrite : t.writeFile p content = .ok later) : later.WellNamed := by
  unfold FileTree.writeFile at hwrite
  split at hwrite
  next => cases hplace : t.locate (above p) {} <;> simp [hplace, Except.bind] at hwrite
  next =>
    split at hwrite
    next => cases hwrite
    next place hplace =>
      split at hwrite
      next => cases hwrite
      next => exact Except.ok.inj hwrite ▸ h.put (isName_of_locate hplace) trivial

/-- Making a link keeps a tree well named, whatever its target is. -/
theorem makeLink (h : t.WellNamed) {target : Bytes} (hlink : t.makeLink p target = .ok later) :
    later.WellNamed := by
  unfold FileTree.makeLink at hlink
  split at hlink
  next => cases hlink
  next place hplace =>
    split at hlink
    next => cases hlink
    next => exact Except.ok.inj hlink ▸ h.put (isName_of_locate hplace) trivial

/-- Deleting keeps a tree well named. -/
theorem delete (h : t.WellNamed) (hdelete : t.delete p = .ok later) : later.WellNamed := by
  unfold FileTree.delete at hdelete
  split at hdelete
  next => cases hdelete
  next place hplace =>
    split at hdelete
    next => cases hdelete
    next name hlast =>
      exact Except.ok.inj hdelete ▸ FileNode.WellNamed.alter h _ fun entries hentries =>
        hentries.dropEntry name

/-- Making one directory keeps a tree well named. -/
theorem makeDirectory (h : t.WellNamed) {isLast : Bool}
    (hmake : t.makeDirectory p isLast = .ok later) : later.WellNamed := by
  unfold FileTree.makeDirectory at hmake
  split at hmake
  next => exact Except.ok.inj hmake ▸ h
  next => cases hmake
  next =>
    split at hmake
    next => cases hmake
    next place _ hplace => exact Except.ok.inj hmake ▸ h.put (isName_of_locate hplace) trivial
    next => cases hmake
  next => cases hmake

/-- Making a directory together with those above it keeps a tree well named. -/
theorem makeDirectories (h : t.WellNamed) (hmake : t.makeDirectories p = .ok later) :
    later.WellNamed := by
  unfold FileTree.makeDirectories at hmake
  dsimp only at hmake
  generalize (beginnings p).length = count at hmake
  generalize (beginnings p).zipIdx = steps at hmake
  induction steps generalizing t with
  | nil => exact Except.ok.inj hmake ▸ h
  | cons step rest ih =>
      obtain ⟨start, i⟩ := step
      rw [List.foldlM_cons] at hmake
      cases hnext : t.makeDirectory start (i + 1 == count) with
      | error e =>
          rw [hnext] at hmake
          cases hmake
      | ok next =>
          rw [hnext] at hmake
          exact ih (h.makeDirectory hnext) hmake

/-- Writing a file, with the directories above it, keeps a tree well named. -/
theorem write (h : t.WellNamed) {content : Bytes} (hwrite : t.write p content = .ok later) :
    later.WellNamed := by
  unfold FileTree.write at hwrite
  split at hwrite
  next => cases hwrite
  next hmake => exact (h.makeDirectories hmake).writeFile hwrite

end WellNamed

/-! ### Walks -/

/-- In a directory of files a walk meets those that are not ignored. -/
theorem walkInside_of_files {t : FileTree} {w : Walker} {fuel : ℕ}
    {entries : List (Bytes × FileNode)} (hplace : t.root.get? w.place = some (.directory entries))
    (hfiles : ∀ entry ∈ entries, ∃ content, t.find (w.path.join ⟨entry.1⟩) = .ok (.file content)) :
    t.walkInside (fuel + 1) w = entries.flatMap fun entry =>
      if Ignore.isIgnored w.scopes (entry.1 :: w.names) false then []
      else [.file (w.path.join ⟨entry.1⟩)] := by
  rw [walkInside, hplace]
  refine List.flatMap_congr fun entry hentry => ?_
  obtain ⟨content, hfind⟩ := hfiles entry hentry
  unfold find at hfind
  cases hlocate : t.locate (w.path.join ⟨entry.1⟩) {} with
  | error e => simp [hlocate] at hfind
  | ok place =>
      cases hnode : t.root.get? place with
      | none => simp [hlocate, hnode] at hfind
      | some node =>
          simp only [hlocate, hnode, Except.ok.injEq] at hfind
          subst hfind
          simp [hlocate, hnode]

/-- The files that are met inside a directory. -/
theorem exists_descend_of_mem_walkInside {t : FileTree} (ht : t.WellNamed) {fuel : ℕ} {w : Walker}
    {p : FilePath} (h : .file p ∈ t.walkInside fuel w) :
    ∃ names, names ≠ [] ∧ (∀ name ∈ names, IsName name) ∧ p = w.path.descend names := by
  induction fuel generalizing w with
  | zero => cases h
  | succ fuel ih =>
      rw [walkInside] at h
      split at h
      next entries hentries =>
        obtain ⟨⟨name, node⟩, hentry, hitem⟩ := List.mem_flatMap.mp h
        have hname : IsName name :=
          (FileNode.EntriesWellNamed.of_mem (FileNode.WellNamed.get? ht hentries) hentry).1
        dsimp only at hitem
        split at hitem
        next => simp at hitem
        next place hplace =>
          split at hitem
          next below hbelow =>
            split at hitem
            next => simp at hitem
            next =>
              split at hitem
              next => cases hitem
              next =>
                obtain ⟨names, -, hnames, rfl⟩ := ih hitem
                exact ⟨name :: names, by simp, by simpa using ⟨hname, hnames⟩, rfl⟩
          next =>
            split at hitem
            next => cases hitem
            next =>
              obtain rfl := WalkItem.file.inj (List.mem_singleton.mp hitem)
              exact ⟨[name], by simp, by simpa using hname, rfl⟩
      next => cases h

/-- **The files that a walk meets** are below the start of the walk, as this is spelled. -/
theorem exists_descend_of_mem_walkFrom {t : FileTree} (ht : t.WellNamed) {start p : FilePath}
    (h : .file p ∈ t.walkFrom start) :
    ∃ names, names ≠ [] ∧ (∀ name ∈ names, IsName name) ∧ p = start.descend names := by
  unfold walkFrom at h
  split at h
  next => simp at h
  next place hplace =>
    rcases List.mem_append.mp h with htold | hinside
    · split at htold <;> simp at htold
    · exact exists_descend_of_mem_walkInside ht hinside

end FileTree

end PullDiagnostics
