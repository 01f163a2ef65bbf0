import PullDiagnostics.Proofs.FileTree.Spelling

/-!
# Files that are written

A file is written at the place that its path leads to, where there is a file or nothing in a
directory. All else stays of the kind that it was, a link with its target, so each path that led
somewhere still leads there, and the path of the file leads to what was written.

## Main results

* `FileNode.keeps_alter_putEntry`: a file put into a directory keeps the kinds of all nodes.
* `FileTree.walk_of_keeps`: a path leads where it did in a tree that keeps the kinds.
* `FileTree.read_of_writeFile`: what is written is read.
-/

namespace PullDiagnostics

namespace FileNode

/-! ### Kinds of nodes -/

/-- Whether two nodes are both files, both directories, or links with one target. -/
inductive SameKind : FileNode → FileNode → Prop where
  | file (a b : Bytes) : SameKind (.file a) (.file b)
  | directory (a b : List (Bytes × FileNode)) : SameKind (.directory a) (.directory b)
  | link (target : Bytes) : SameKind (.link target) (.link target)

theorem SameKind.refl (node : FileNode) : SameKind node node := by
  cases node <;> constructor

/-- Whether there is a node of the same kind wherever there is one below a node. -/
def Keeps (node later : FileNode) : Prop :=
  ∀ {place : List Bytes} {a : FileNode}, node.get? place = some a →
    ∃ b, later.get? place = some b ∧ SameKind a b

theorem get?_nil (node : FileNode) : node.get? [] = some node := by
  cases node <;> rfl

theorem get?_directory (entries : List (Bytes × FileNode)) (name : Bytes) (rest : List Bytes) :
    (FileNode.directory entries).get? (name :: rest) =
      (child? name entries).bind fun child => child.get? rest := rfl

/-- A place is looked up name by name, in two parts as well. -/
theorem get?_append (node : FileNode) (place more : List Bytes) :
    node.get? (place ++ more) = (node.get? place).bind fun a => a.get? more := by
  induction place generalizing node with
  | nil => rw [get?_nil, List.nil_append, Option.bind_some]
  | cons name rest ih =>
      cases node with
      | file _ | link _ => rfl
      | directory entries =>
          rw [List.cons_append, get?_directory, get?_directory]
          cases child? name entries with
          | none => rfl
          | some child => exact ih child

/-- What lies in a directory. -/
theorem get?_concat {node : FileNode} {place : List Bytes} {entries : List (Bytes × FileNode)}
    (h : node.get? place = some (.directory entries)) (name : Bytes) :
    node.get? (place ++ [name]) = child? name entries := by
  rw [get?_append, h, Option.bind_some, get?_directory]
  simp only [get?_nil, Option.bind_fun_some]

/-- Above each place with something there is a directory. -/
theorem exists_get?_dropLast {node : FileNode} {place : List Bytes}
    {entries : List (Bytes × FileNode)} (h : node.get? place = some (.directory entries)) :
    ∃ above, node.get? place.dropLast = some (.directory above) := by
  rcases List.eq_nil_or_concat place with rfl | ⟨front, name, rfl⟩
  · exact ⟨entries, h⟩
  · rw [List.concat_eq_append, get?_append] at h
    obtain ⟨a, ha, hname⟩ := Option.bind_eq_some_iff.mp h
    rw [List.concat_eq_append, List.dropLast_concat, ha]
    cases a with
    | file _ | link _ => cases hname
    | directory above => exact ⟨above, rfl⟩

/-- Directories stay, and what lies in them keeps its kind. -/
theorem Keeps.directory {node later : FileNode} (h : node.Keeps later) {place : List Bytes}
    {entries : List (Bytes × FileNode)} (hplace : node.get? place = some (.directory entries)) :
    ∃ others, later.get? place = some (.directory others) ∧
      ∀ {name child}, child? name entries = some child →
        ∃ other, child? name others = some other ∧ SameKind child other := by
  obtain ⟨b, hb, hkind⟩ := h hplace
  cases hkind with
  | directory _ others =>
      refine ⟨others, hb, fun {name child} hchild => ?_⟩
      rw [← get?_concat hplace] at hchild
      rw [← get?_concat hb]
      exact h hchild

/-! ### A file put into a directory -/

/-- What is found among entries after one is put there. -/
theorem child?_putEntry (name other : Bytes) (node : FileNode)
    (entries : List (Bytes × FileNode)) :
    child? other (putEntry name node entries) =
      if other = name then some node else child? other entries := by
  induction entries with
  | nil => by_cases h : name = other <;> simp [putEntry, child?, h, eq_comm]
  | cons entry rest ih =>
      obtain ⟨n, old⟩ := entry
      by_cases hn : n = name
      · subst hn
        by_cases h : n = other <;> simp [putEntry, child?, h, Ne.symm]
      · by_cases h : n = other
        · subst h
          simp [putEntry, child?, hn]
        · simp [putEntry, child?, hn, h, ih]

/-- A node put in place of one entry keeps all kinds that it keeps below that entry. -/
theorem keeps_putEntry {entries : List (Bytes × FileNode)} {name : Bytes} {node : FileNode}
    (h : ∀ {place : List Bytes} {a : FileNode},
      ((child? name entries).bind fun child => child.get? place) = some a →
      ∃ b, node.get? place = some b ∧ SameKind a b) :
    Keeps (.directory entries) (.directory (putEntry name node entries)) := by
  rintro (_ | ⟨other, rest⟩) a ha
  · obtain rfl : FileNode.directory entries = a := Option.some.inj ha
    exact ⟨_, rfl, .directory _ _⟩
  · rw [get?_directory, child?_putEntry]
    by_cases hother : other = name
    · subst hother
      rw [if_pos rfl]
      exact h ha
    · rw [if_neg hother]
      exact ⟨a, ha, .refl a⟩

/-- **A file put into a directory**, in place of a file or where there was nothing, is there, and
keeps the kinds of all nodes. -/
theorem keeps_alter_putEntry {node : FileNode} {place : List Bytes}
    {entries : List (Bytes × FileNode)} (hplace : node.get? place = some (.directory entries))
    {name : Bytes} (hname : ∀ a, child? name entries = some a → ∃ old, a = .file old)
    (content : Bytes) :
    Keeps node (node.alter place (putEntry name (.file content))) ∧
      (node.alter place (putEntry name (.file content))).get? (place ++ [name]) =
        some (.file content) := by
  induction place generalizing node with
  | nil =>
      obtain rfl : node = .directory entries := by rwa [get?_nil, Option.some.injEq] at hplace
      refine ⟨keeps_putEntry fun {place a} ha => ?_, ?_⟩
      · obtain ⟨child, hchild, ha⟩ := Option.bind_eq_some_iff.mp ha
        obtain ⟨old, rfl⟩ := hname child hchild
        cases place with
        | cons _ _ => cases ha
        | nil =>
            obtain rfl : FileNode.file old = a := Option.some.inj ha
            exact ⟨_, rfl, .file _ _⟩
      · rw [List.nil_append, alter, get?_directory, child?_putEntry, if_pos rfl]
        rfl
  | cons first rest ih =>
      cases node with
      | file _ | link _ => cases hplace
      | directory es =>
          obtain ⟨child, hchild, hplace⟩ := Option.bind_eq_some_iff.mp hplace
          obtain ⟨hkeeps, hfile⟩ := ih hplace
          rw [alter, hchild]
          refine ⟨keeps_putEntry fun {place a} ha => ?_, ?_⟩
          · rw [hchild] at ha
            exact hkeeps ha
          · rw [List.cons_append, get?_directory, child?_putEntry, if_pos rfl]
            exact hfile

end FileNode

namespace FileTree

/-! ### Paths in a tree that keeps the kinds -/

/-- The place that pieces lead to holds a directory, or it is in a directory and no link is there;
without pieces, it is where they start. -/
theorem walk_ends {root : FileNode} {how : Follow} (hlast : how.lastLink = true) {links : ℕ}
    {place parts found : List Bytes} (h : walk root how links place parts = .ok found) :
    (∃ entries, root.get? found = some (.directory entries)) ∨ parts = [] ∧ found = place ∨
      ∃ parent name entries, found = parent ++ [name] ∧
        root.get? parent = some (.directory entries) ∧
        ∀ a, FileNode.child? name entries = some a → ∃ old, a = .file old := by
  fun_induction walk root how links place parts
  case case1 => exact .inr (.inl ⟨rfl, (Except.ok.inj h).symm⟩)
  case case2 piece rest entries hplace hidle ih =>
    rcases ih h with hfound | ⟨-, rfl⟩ | hfound
    · exact .inl hfound
    · exact .inl ⟨entries, hplace⟩
    · exact .inr (.inr hfound)
  case case3 rest entries hplace hpiece ih =>
    rcases ih h with hfound | ⟨-, rfl⟩ | hfound
    · exact .inl hfound
    · exact .inl (FileNode.exists_get?_dropLast hplace)
    · exact .inr (.inr hfound)
  case case5 place piece rest entries hplace hpiece hparent hlong hchild hmissing =>
    refine .inr (.inr ⟨place, piece, entries, (Except.ok.inj h).symm, hplace, ?_⟩)
    simp [hchild]
  case case9 piece rest entries hplace hpiece hparent hlong target hchild hlast links start ih =>
    rcases ih h with hfound | ⟨hnil, -⟩ | hfound
    · exact .inl hfound
    · exact absurd (List.append_eq_nil_iff.mp hnil).1 (List.splitOn_ne_nil _ target)
    · exact .inr (.inr hfound)
  case case10 place piece rest entries hplace hpiece hparent hlong node hlink hchild ih =>
    rcases ih h with hfound | ⟨-, rfl⟩ | hfound
    · exact .inl hfound
    · cases node with
      | link target => exact absurd rfl (hlink target)
      | directory below => exact .inl ⟨below, (FileNode.get?_concat hplace piece).trans hchild⟩
      | file old =>
          refine .inr (.inr ⟨place, piece, entries, rfl, hplace, fun a ha => ⟨old, ?_⟩⟩)
          exact Option.some.inj (ha.symm.trans hchild)
    · exact .inr (.inr hfound)
  all_goals simp_all

/-- **A path leads where it did** in a tree that keeps the kinds, if it led to a place where there
is a file now. -/
theorem walk_of_keeps {root later : FileNode} (hkeeps : root.Keeps later) {links : ℕ}
    {place parts found : List Bytes} {content : Bytes}
    (h : walk root { missing := true } links place parts = .ok found)
    (hfile : later.get? found = some (.file content)) :
    walk later {} links place parts = .ok found := by
  fun_induction walk root { missing := true } links place parts
  case case1 => rw [walk, Except.ok.inj h]
  case case2 piece rest entries hplace hidle ih =>
    obtain ⟨others, hothers, -⟩ := hkeeps.directory hplace
    rw [walk, hothers]
    simp only [hidle, if_true]
    exact ih h
  case case3 rest entries hplace hpiece ih =>
    obtain ⟨others, hothers, -⟩ := hkeeps.directory hplace
    rw [walk, hothers]
    simp only [hpiece, Bool.false_eq_true, if_true, if_false]
    exact ih h
  case case5 place piece rest entries hplace hpiece hparent hlong hchild hmissing =>
    obtain ⟨others, hothers, -⟩ := hkeeps.directory hplace
    obtain rfl := Except.ok.inj h
    obtain rfl : rest = [] := by simpa using hmissing
    rw [FileNode.get?_concat hothers] at hfile
    rw [walk, hothers]
    simp only [hpiece, hparent, hlong, hfile, Bool.false_eq_true, if_false]
    rw [walk]
  case case9 piece rest entries hplace hpiece hparent hlong target hchild hlast links start ih =>
    obtain ⟨others, hothers, hkind⟩ := hkeeps.directory hplace
    obtain ⟨other, hother, hsame⟩ := hkind hchild
    cases hsame
    rw [walk, hothers]
    simp only [hpiece, hparent, hlong, hother, if_false, Bool.not_true, Bool.and_false]
    exact ih h
  case case10 place piece rest entries hplace hpiece hparent hlong node hlink hchild ih =>
    obtain ⟨others, hothers, hkind⟩ := hkeeps.directory hplace
    obtain ⟨other, hother, hsame⟩ := hkind hchild
    rw [walk, hothers]
    simp only [hpiece, hparent, hlong, hother, if_false]
    cases hsame with
    | link target => exact absurd rfl (hlink target)
    | file _ _ | directory _ _ => exact ih h
  all_goals simp_all

/-! ### Written files -/

/-- A path leads to what is put at its place, be it in place of a file or not. -/
theorem read_put {t : FileTree} {p : FilePath} {place : List Bytes}
    (hplace : t.locate p { missing := true } = .ok place)
    (hfree : ∀ entries, t.root.get? place ≠ some (.directory entries)) (content : Bytes) :
    (t.put place (.file content)).read p = .ok content := by
  obtain ⟨habsolute, hwalk⟩ := walk_of_locate hplace
  rcases walk_ends rfl hwalk with ⟨entries, hdirectory⟩ | ⟨hnil, -⟩ |
    ⟨parent, name, entries, rfl, hparent, hname⟩
  · exact absurd hdirectory (hfree entries)
  · exact absurd hnil (List.splitOn_ne_nil _ p.bytes)
  · obtain ⟨hkeeps, hfile⟩ := FileNode.keeps_alter_putEntry hparent hname content
    have hput : t.put (parent ++ [name]) (.file content) =
        ⟨t.root.alter parent (FileNode.putEntry name (.file content))⟩ := by
      simp [put]
    rw [hput]
    refine read_eq_ok_iff.mpr ⟨parent ++ [name], ?_, hfile⟩
    rw [← walk_of_keeps hkeeps hwalk hfile]
    unfold locate at hplace ⊢
    split_ifs at hplace ⊢
    rfl

/-- **What is written is read.** -/
theorem read_of_writeFile {t later : FileTree} {p : FilePath} {content : Bytes}
    (h : t.writeFile p content = .ok later) : later.read p = .ok content := by
  unfold writeFile at h
  split at h
  next => cases hplace : t.locate (above p) {} <;> simp [hplace, Except.bind] at h
  next =>
    split at h
    next => cases h
    next place hplace =>
      split at h
      next => cases h
      next hfree =>
        obtain rfl := Except.ok.inj h
        exact read_put hplace hfree content

end FileTree

end PullDiagnostics
