import PullDiagnostics.Pass

/-!
# Cache of findings

The findings of the last pass by document, each with the fingerprint of the bytes that the
pass has seen. An entry holds as long as its file still has that fingerprint.

Every event that makes entries void advances a clock, the epoch. A pass notes the epoch when
it begins; when it is published, it leaves out every document that was made void since. So a
slow pass does not bring back what a newer event has removed.

A lookup takes the entry, reads the file, and then makes sure that the entry is still the one
in the cache; other events may come in between. Entries of different publications are
different, even with the same content.

* `lookup_eq_some`: what a lookup without events in between finds.
* `stored?_void`, `stored?_voidAll`, `stored?_publish_eq_some_iff`: which entries there are
  after an event.
* `voidedSince_void`, `voidedSince_voidAll`, `voidedSince_publish`: which documents count as
  void since a pass began.
-/

namespace PullDiagnostics

/-- The findings about one document. -/
structure CacheEntry where
  findings : List Finding
  /-- The fingerprint of the bytes that the findings are about. -/
  fingerprint : Fingerprint
  /-- The publication that the entry belongs to. -/
  publication : Nat
  deriving DecidableEq, Inhabited

/-- Whether a document is known to have no findings. -/
def CacheEntry.isClean (e : CacheEntry) : Bool :=
  e.findings.isEmpty

/-- The number of events before a pass began. -/
structure Epoch where
  number : Nat
  deriving DecidableEq, Inhabited

/-- The findings of the last pass, with what is needed to tell which of them are void. -/
structure Cache where
  entries : DocumentMap CacheEntry := .empty
  epoch : Nat := 0
  /-- When each document was last made void. -/
  voidedAt : DocumentMap Nat := .empty
  /-- When all documents were last made void. -/
  clearedAt : Nat := 0
  /-- The number of passes published so far. -/
  publications : Nat := 0
  deriving DecidableEq, Inhabited

namespace Cache

/-- The fingerprint that the file of a document has now. -/
def liveFingerprint? (t : FileTree) (d : DocumentUri) : Option Fingerprint :=
  d.toPath?.bind fun p => (Pass.liveFingerprint t p).toOption

/-! ### Lookups -/

/-- The first step of a lookup: the entry of a document, whether or not it holds. -/
def stored? (c : Cache) (d : DocumentUri) : Option CacheEntry :=
  c.entries.get? d

/-- The last step of a lookup: an entry taken before is found if the file, read since, has
its fingerprint and the entry is still there. -/
def confirm (c : Cache) (d : DocumentUri) (e : CacheEntry) (live : Option Fingerprint) :
    Option CacheEntry :=
  if live = some e.fingerprint && (c.stored? d).map (·.publication) = some e.publication
  then some e
  else none

/-- A lookup with nothing between its steps. -/
def lookup (c : Cache) (t : FileTree) (d : DocumentUri) : Option CacheEntry :=
  (c.stored? d).bind fun e => c.confirm d e (liveFingerprint? t d)

/-- Whether there is an entry that holds. -/
def isValid (c : Cache) (t : FileTree) (d : DocumentUri) : Bool :=
  (c.lookup t d).isSome

/-- Whether there is an entry, be it one that does not hold. -/
def contains (c : Cache) (d : DocumentUri) : Bool :=
  (c.stored? d).isSome

/-! ### Events -/

/-- The content of a document has changed, or the document is gone. -/
def void (c : Cache) (d : DocumentUri) : Cache :=
  { c with
    epoch := c.epoch + 1
    entries := c.entries.erase d
    voidedAt := c.voidedAt.put d (c.epoch + 1) }

/-- Nothing that is known holds any more. -/
def voidAll (c : Cache) : Cache :=
  { c with
    epoch := c.epoch + 1
    entries := .empty
    voidedAt := .empty
    clearedAt := c.epoch + 1 }

/-- A pass begins. -/
def beginPass (c : Cache) : Epoch :=
  ⟨c.epoch⟩

/-- Whether a document was made void after a pass began. -/
def voidedSince (c : Cache) (d : DocumentUri) (e : Epoch) : Bool :=
  e.number < c.clearedAt || (c.voidedAt.get? d).any (e.number < ·)

/-- The fingerprint of a document as a pass has seen it; of one that is not among its files,
as it is now. -/
def seenFingerprint? (t : FileTree) (pass : Pass) (d : DocumentUri) : Option Fingerprint :=
  d.toPath?.bind fun p =>
    match pass.fingerprint? p with
    | some fingerprint => some fingerprint
    | none => (Pass.liveFingerprint t p).toOption

/-- A pass is published: it takes the place of all entries. Documents that were made void
after it began are left out, and those without a fingerprint. -/
def publish (c : Cache) (t : FileTree) (e : Epoch) (pass : Pass) : Cache :=
  { c with
    entries := (pass.verdicts.filterMap fun d findings =>
        (seenFingerprint? t pass d).map (⟨findings, ·, c.publications + 1⟩)).filter
      fun d _ => !c.voidedSince d e
    voidedAt := c.voidedAt.filter fun _ at_ => e.number < at_
    publications := c.publications + 1 }

/-- The documents with an entry, in order. -/
def documents (c : Cache) : List DocumentUri :=
  c.entries.documents

/-- The number of entries. -/
def size (c : Cache) : Nat :=
  c.entries.size

/-! ### Entries after each event -/

@[simp] theorem stored?_empty (d : DocumentUri) : ({} : Cache).stored? d = none := rfl

/-- Making a document void removes its entry and no other. -/
theorem stored?_void (c : Cache) (d e : DocumentUri) :
    (c.void d).stored? e = if e = d then none else c.stored? e :=
  c.entries.get?_erase d e

@[simp] theorem stored?_voidAll (c : Cache) (d : DocumentUri) : c.voidAll.stored? d = none :=
  rfl

/-- A document has an entry after a publication if the pass speaks of it, its fingerprint is
known, and no event has made it void since the pass began. The entry holds the findings of the
pass and the number of the publication. -/
theorem stored?_publish_eq_some_iff {c : Cache} {t : FileTree} {e : Epoch} {pass : Pass}
    {d : DocumentUri} {entry : CacheEntry} :
    (c.publish t e pass).stored? d = some entry ↔
      c.voidedSince d e = false ∧ pass.speaksOf d = true ∧
        seenFingerprint? t pass d = some entry.fingerprint ∧
        entry.findings = pass.findingsOf d ∧ entry.publication = c.publications + 1 := by
  obtain ⟨findings, fingerprint, publication⟩ := entry
  simp only [stored?, publish, DocumentMap.get?_filter, DocumentMap.get?_filterMap,
    Pass.get?_verdicts, Option.filter_eq_some_iff, Bool.not_eq_true']
  cases pass.speaksOf d with
  | false => simp
  | true =>
      simp only [ite_true, Option.bind_some, Option.map_eq_some_iff, CacheEntry.mk.injEq]
      constructor
      · rintro ⟨⟨_, hseen, rfl, rfl, rfl⟩, hvoided⟩
        exact ⟨hvoided, trivial, hseen, rfl, rfl⟩
      · rintro ⟨hvoided, -, hseen, rfl, rfl⟩
        exact ⟨⟨_, hseen, rfl, rfl, rfl⟩, hvoided⟩

/-! ### Voided documents after each event -/

/-- A document was made void since an epoch by itself or together with all others. -/
theorem voidedSince_iff {c : Cache} {d : DocumentUri} {e : Epoch} :
    c.voidedSince d e = true ↔
      e.number < c.clearedAt ∨ ∃ at_, c.voidedAt.get? d = some at_ ∧ e.number < at_ := by
  simp [voidedSince, Option.any_eq_true]

/-- Making a document void counts for it under every epoch up to then, and for no other
document. -/
theorem voidedSince_void {c : Cache} {E : Epoch} (h : E.number ≤ c.epoch)
    (d e : DocumentUri) :
    (c.void d).voidedSince e E = (decide (e = d) || c.voidedSince e E) := by
  rw [Bool.eq_iff_iff, Bool.or_eq_true, decide_eq_true_eq, voidedSince_iff, voidedSince_iff]
  simp only [void, DocumentMap.get?_put]
  by_cases he : e = d
  · simp [he, Nat.lt_succ_of_le h]
  · simp [he]

/-- Making everything void counts for every document under every epoch up to then. -/
theorem voidedSince_voidAll {c : Cache} {E : Epoch} (h : E.number ≤ c.epoch)
    (d : DocumentUri) : c.voidAll.voidedSince d E = true :=
  voidedSince_iff.mpr (.inl (Nat.lt_succ_of_le h))

/-- A publication forgets no event that a pass begun as late or later has to know of. -/
theorem voidedSince_publish {c : Cache} {t : FileTree} {e E : Epoch} {pass : Pass}
    (h : e.number ≤ E.number) (d : DocumentUri) :
    (c.publish t e pass).voidedSince d E = c.voidedSince d E := by
  rw [Bool.eq_iff_iff, voidedSince_iff, voidedSince_iff]
  simp only [publish, DocumentMap.get?_filter, Option.filter_eq_some_iff, decide_eq_true_eq]
  refine or_congr_right (exists_congr fun at_ => ?_)
  constructor
  · rintro ⟨⟨hat, -⟩, hlt⟩
    exact ⟨hat, hlt⟩
  · rintro ⟨hat, hlt⟩
    exact ⟨⟨hat, Nat.lt_of_le_of_lt h hlt⟩, hlt⟩

/-- An undisturbed lookup finds the entry whose fingerprint is that of the file. -/
theorem lookup_eq_some {c : Cache} {t : FileTree} {d : DocumentUri} {e : CacheEntry} :
    c.lookup t d = some e ↔
      c.stored? d = some e ∧ liveFingerprint? t d = some e.fingerprint := by
  cases h : c.stored? d with
  | none => simp [lookup, h]
  | some f =>
      simp only [lookup, h, Option.bind_some, confirm, Option.map_some, decide_true,
        Bool.and_true, decide_eq_true_eq]
      constructor
      · intro hf
        split at hf
        · cases hf
          exact ⟨rfl, by assumption⟩
        · cases hf
      · rintro ⟨hf, hl⟩
        cases hf
        simp [hl]

end Cache

end PullDiagnostics
