import PullDiagnostics.DocumentUri

/-!
# Documents with a value each

A map from documents to values, kept as a list in the order of the documents' names with each
document in it once. That it is so is part of a map, so that no operation has to be proved to
work on such maps only.

* `get?_eq_some_iff`: what is found is what the list holds.
* `get?_put`, `get?_erase`, `get?_filter`, `get?_filterMap`: what is found after each
  operation.
* `mem_documents_iff`, `nodup_documents`: the documents are those with a value, each once.
-/

namespace PullDiagnostics

namespace DocumentMap

variable {α : Type}

/-- Whether entries are in order: each document is there once, and none stands behind one that
it comes before. -/
def InOrder (entries : List (DocumentUri × α)) : Prop :=
  entries.Pairwise fun a b => a.1 ≠ b.1 ∧ b.1.before a.1 = false

end DocumentMap

/-- Documents with a value each, in the order of their names. -/
structure DocumentMap (α : Type) where
  entries : List (DocumentUri × α)
  inOrder : DocumentMap.InOrder entries
  deriving DecidableEq

namespace DocumentMap

variable {α : Type}

/-- No documents. -/
def empty : DocumentMap α := ⟨[], .nil⟩

instance : Inhabited (DocumentMap α) := ⟨empty⟩

/-- The value of a document among entries. -/
def findEntry (d : DocumentUri) : List (DocumentUri × α) → Option α
  | [] => none
  | (e, v) :: rest => if d = e then some v else findEntry d rest

/-- The entry of a document replaced, or put in its place. -/
def putEntry (d : DocumentUri) (value : α) : List (DocumentUri × α) → List (DocumentUri × α)
  | [] => [(d, value)]
  | (e, v) :: rest =>
      if d = e then (d, value) :: rest
      else if d.before e then (d, value) :: (e, v) :: rest
      else (e, v) :: putEntry d value rest

/-- The entries after a `putEntry` are the new one and old ones. -/
theorem mem_putEntry {d : DocumentUri} {value : α} {entries : List (DocumentUri × α)}
    {entry : DocumentUri × α} (h : entry ∈ putEntry d value entries) :
    entry = (d, value) ∨ entry ∈ entries := by
  induction entries with
  | nil => simpa [putEntry] using h
  | cons first rest ih =>
      obtain ⟨e, v⟩ := first
      simp only [putEntry] at h
      split at h
      · exact (List.mem_cons.mp h).imp_right (List.mem_cons_of_mem _)
      · split at h
        · exact List.mem_cons.mp h
        · rcases List.mem_cons.mp h with rfl | hrest
          · exact .inr (List.mem_cons_self ..)
          · exact (ih hrest).imp_right (List.mem_cons_of_mem _)

theorem InOrder.putEntry {entries : List (DocumentUri × α)} (h : InOrder entries)
    (d : DocumentUri) (value : α) : InOrder (putEntry d value entries) := by
  induction entries with
  | nil => exact List.pairwise_singleton _ _
  | cons first rest ih =>
      obtain ⟨e, v⟩ := first
      obtain ⟨hfirst, hrest⟩ := List.pairwise_cons.mp h
      simp only [DocumentMap.putEntry]
      split
      next hde =>
        subst hde
        exact List.pairwise_cons.mpr ⟨hfirst, hrest⟩
      next hde =>
        split
        next hbefore =>
          refine List.pairwise_cons.mpr ⟨fun entry hentry => ?_, h⟩
          -- All that follows `e` is behind `d`, for `e` is and they do not come before `e`.
          have hafter : d.before entry.1 = true := by
            rcases List.mem_cons.mp hentry with rfl | hmem
            · exact hbefore
            · exact DocumentUri.before_of_not_before hbefore (hfirst entry hmem).2
          refine ⟨fun heq => ?_, DocumentUri.not_before_of_before hafter⟩
          rw [← heq, DocumentUri.not_before_self] at hafter
          exact absurd hafter Bool.false_ne_true
        next hbefore =>
          refine List.pairwise_cons.mpr ⟨fun entry hentry => ?_, ih hrest⟩
          rcases mem_putEntry hentry with rfl | hmem
          · exact ⟨Ne.symm hde, by simpa using hbefore⟩
          · exact hfirst entry hmem

/-- Among entries in order, a document has the value that stands with it. -/
theorem findEntry_eq_some_iff {d : DocumentUri} {value : α}
    {entries : List (DocumentUri × α)} (h : InOrder entries) :
    findEntry d entries = some value ↔ (d, value) ∈ entries := by
  induction entries with
  | nil => simp [findEntry]
  | cons first rest ih =>
      obtain ⟨e, v⟩ := first
      obtain ⟨hfirst, hrest⟩ := List.pairwise_cons.mp h
      simp only [findEntry, List.mem_cons, Prod.mk.injEq]
      by_cases hde : d = e
      · subst hde
        have hmem : (d, value) ∉ rest := fun hmem => (hfirst _ hmem).1 rfl
        simp [hmem, eq_comm]
      · simp [hde, ih hrest]

/-- The value of a document. -/
def get? (m : DocumentMap α) (d : DocumentUri) : Option α :=
  findEntry d m.entries

/-- Whether a document has a value. -/
def contains (m : DocumentMap α) (d : DocumentUri) : Bool :=
  (m.get? d).isSome

/-- A document is given a value. -/
def put (m : DocumentMap α) (d : DocumentUri) (value : α) : DocumentMap α :=
  ⟨putEntry d value m.entries, m.inOrder.putEntry d value⟩

/-- A document loses its value. -/
def erase (m : DocumentMap α) (d : DocumentUri) : DocumentMap α :=
  ⟨m.entries.filter fun (e, _) => e != d, m.inOrder.filter _⟩

/-- The documents that pass a test, with their values. -/
def filter (m : DocumentMap α) (keep : DocumentUri → α → Bool) : DocumentMap α :=
  ⟨m.entries.filter fun (d, v) => keep d v, m.inOrder.filter _⟩

/-- The order does not depend on the values, so it survives a change of them. -/
theorem InOrder.filterMap {β : Type} {entries : List (DocumentUri × α)} (h : InOrder entries)
    (f : DocumentUri → α → Option β) :
    InOrder (entries.filterMap fun (d, v) => (f d v).map (d, ·)) := by
  refine List.Pairwise.filterMap _ (fun a b hab x hx y hy => ?_) h
  obtain ⟨_, _, rfl⟩ := Option.map_eq_some_iff.mp hx
  obtain ⟨_, _, rfl⟩ := Option.map_eq_some_iff.mp hy
  exact hab

/-- New values for those documents that have one. -/
def filterMap {β : Type} (m : DocumentMap α) (f : DocumentUri → α → Option β) :
    DocumentMap β :=
  ⟨m.entries.filterMap fun (d, v) => (f d v).map (d, ·), m.inOrder.filterMap f⟩

/-- The documents in order. -/
def documents (m : DocumentMap α) : List DocumentUri :=
  m.entries.map (·.1)

/-- The number of documents. -/
def size (m : DocumentMap α) : Nat :=
  m.entries.length

/-! ### What is found -/

/-- The value found is that of the only entry of the document. -/
theorem get?_eq_some_iff {m : DocumentMap α} {d : DocumentUri} {value : α} :
    m.get? d = some value ↔ (d, value) ∈ m.entries :=
  findEntry_eq_some_iff m.inOrder

@[simp] theorem get?_empty (d : DocumentUri) : (empty : DocumentMap α).get? d = none := rfl

@[simp] theorem contains_empty (d : DocumentUri) :
    (empty : DocumentMap α).contains d = false := rfl

/-- What is found after a `putEntry`, in a list in any order. -/
theorem findEntry_putEntry (d e : DocumentUri) (value : α)
    (entries : List (DocumentUri × α)) :
    findEntry e (putEntry d value entries) =
      if e = d then some value else findEntry e entries := by
  induction entries with
  | nil => simp [putEntry, findEntry]
  | cons entry rest ih =>
      obtain ⟨k, v⟩ := entry
      by_cases hk : d = k
      · subst hk
        by_cases he : e = d <;> simp [putEntry, findEntry, he]
      · by_cases hb : d.before k = true
        · by_cases he : e = d <;> simp [putEntry, findEntry, hk, hb, he]
        · by_cases he : e = k
          · subst he
            simp [putEntry, findEntry, hk, hb, Ne.symm hk]
          · simp [putEntry, findEntry, hk, hb, he, ih]

/-- A value put into the map is found under its document, and nothing else changes. -/
theorem get?_put (m : DocumentMap α) (d e : DocumentUri) (value : α) :
    (m.put d value).get? e = if e = d then some value else m.get? e :=
  findEntry_putEntry d e value m.entries

/-- A put adds its document to those that have a value. -/
theorem contains_put (m : DocumentMap α) (d e : DocumentUri) (value : α) :
    (m.put d value).contains e = (decide (e = d) || m.contains e) := by
  by_cases he : e = d <;> simp [contains, get?_put, he]

/-- A filter removes the values that fail its test and changes none. -/
theorem get?_filter (m : DocumentMap α) (keep : DocumentUri → α → Bool) (d : DocumentUri) :
    (m.filter keep).get? d = (m.get? d).filter (keep d) := by
  ext v
  simp [get?_eq_some_iff, filter, Option.filter_eq_some_iff]

/-- An erased document has no value, and nothing else changes. -/
theorem get?_erase (m : DocumentMap α) (d e : DocumentUri) :
    (m.erase d).get? e = if e = d then none else m.get? e := by
  ext v
  by_cases he : e = d <;> simp [get?_eq_some_iff, erase, he]

/-- A value is mapped together with its document. -/
theorem get?_filterMap {β : Type} (m : DocumentMap α) (f : DocumentUri → α → Option β)
    (d : DocumentUri) : (m.filterMap f).get? d = (m.get? d).bind (f d) := by
  ext v
  simp only [get?_eq_some_iff, filterMap, List.mem_filterMap, Prod.exists, Option.map_eq_some_iff,
    Prod.mk.injEq, Option.bind_eq_some_iff]
  constructor
  · rintro ⟨e, u, hmem, w, hw, rfl, rfl⟩
    exact ⟨u, hmem, hw⟩
  · rintro ⟨u, hmem, hv⟩
    exact ⟨d, u, hmem, v, hv, rfl, rfl⟩

/-! ### The documents -/

/-- The documents listed are those that have a value. -/
theorem mem_documents_iff {m : DocumentMap α} {d : DocumentUri} :
    d ∈ m.documents ↔ m.contains d = true := by
  simp [documents, contains, Option.isSome_iff_exists, get?_eq_some_iff]

/-- Every document is listed once. -/
theorem nodup_documents (m : DocumentMap α) : m.documents.Nodup :=
  List.pairwise_map.mpr (m.inOrder.imp And.left)

/-- A put inserts its document among the others by their order. -/
theorem map_putEntry (d : DocumentUri) (value : α) (entries : List (DocumentUri × α)) :
    (putEntry d value entries).map (·.1) = DocumentUri.insertSorted d (entries.map (·.1)) := by
  induction entries with
  | nil => rfl
  | cons entry rest ih =>
      obtain ⟨e, v⟩ := entry
      simp only [putEntry, List.map_cons, DocumentUri.insertSorted]
      split
      next hde => simp [hde]
      next =>
        split
        · rfl
        · rw [List.map_cons, ih]

theorem documents_put (m : DocumentMap α) (d : DocumentUri) (value : α) :
    (m.put d value).documents = DocumentUri.insertSorted d m.documents :=
  map_putEntry d value m.entries

end DocumentMap

end PullDiagnostics
