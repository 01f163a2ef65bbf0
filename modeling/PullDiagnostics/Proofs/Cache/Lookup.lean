import PullDiagnostics.Proofs.Cache.History
import PullDiagnostics.Proofs.Cache.Snapshot

/-!
# Lookups with events in between

A lookup takes the entry of a document, reads the file, and then makes sure that the entry is
still the one in the cache. While it reads, anything may happen to the cache, even that the entry
is taken away and one with the same content is put in its place. An entry belongs to one
publication, and publications are numbered in their order: what is published later is never
taken for what was there before.

## Main results

* `lt_publication_of_published`: what is there after a publication is not what was there before.
* `stored_still_iff`: an entry is still there after some operations exactly if none of them has
  made its document void or published a pass.
* `lookupDuring_eq_some_iff`: what a lookup finds, whatever comes between its steps.
-/

namespace PullDiagnostics.Cache

/-- A lookup with operations between its first step and its last. The file is read at some time
in between, when the files are as in the tree. -/
def lookupDuring (c : Cache) (d : DocumentUri) (ops : List Operation) (t : FileTree) :
    Option CacheEntry :=
  (c.stored? d).bind fun e => (ops.foldl apply c).confirm d e (liveFingerprint? t d)

/-- The plain lookup is the one with nothing in between. -/
theorem lookup_eq_lookupDuring (c : Cache) (t : FileTree) (d : DocumentUri) :
    c.lookup t d = c.lookupDuring d [] t := rfl

/-! ### Which entry is there -/

/-- Among the operations after some time there is a publication. What is there then is of a
publication that is later than all up to that time. -/
theorem lt_publication_of_published {c : Cache} {ops : List Operation}
    (hops : ∃ op ∈ ops, op.epoch? ≠ none) {d : DocumentUri} {entry : CacheEntry}
    (h : (ops.foldl apply c).stored? d = some entry) : c.publications < entry.publication := by
  induction ops using List.reverseRecOn with
  | nil =>
      obtain ⟨op, hop, -⟩ := hops
      cases hop
  | append_singleton ops op ih =>
      rw [List.foldl_append, List.foldl_cons, List.foldl_nil] at h
      -- If the last operation is no publication, the publication is among the ones before.
      have hearlier (hop : op.epoch? = none) : ∃ op ∈ ops, op.epoch? ≠ none := by
        obtain ⟨a, ha, hpublishes⟩ := hops
        rcases List.mem_append.mp ha with ha | ha
        · exact ⟨a, ha, hpublishes⟩
        · rw [List.mem_singleton.mp ha] at hpublishes
          exact absurd hop hpublishes
      cases op with
      | beginPass => exact ih (hearlier rfl) h
      | publish e t pass =>
          have hnumber := (stored?_publish_eq_some_iff.mp h).2.2.2.2
          rw [publications_foldl] at hnumber
          omega
      | void e =>
          rw [apply, stored?_void] at h
          split at h
          · cases h
          · exact ih (hearlier rfl) h
      | voidAll => cases h

/-- **The entry itself.** An entry is still there after some operations exactly if none of them
has made its document void and none has published a pass, be it one that stores the same. -/
theorem stored_still_iff {before during : List Operation} {d : DocumentUri} {entry : CacheEntry}
    (h : (run before).stored? d = some entry) :
    ((during.foldl apply (run before)).stored? d).map (·.publication) =
        some entry.publication ↔
      ∀ op ∈ during, op.voids d = false ∧ op.epoch? = none := by
  constructor
  · intro hstill
    obtain ⟨later, hlater, hsame⟩ := Option.map_eq_some_iff.mp hstill
    have hunpublished : ∀ op ∈ during, op.epoch? = none := by
      intro op hop
      by_contra hpublishes
      have hlt : (run before).publications < later.publication :=
        lt_publication_of_published ⟨op, hop, hpublishes⟩ hlater
      have hle : entry.publication ≤ (run before).publications := publication_le_of_stored? h
      omega
    rw [stored?_foldl_of_no_publication hunpublished] at hlater
    split at hlater
    next => cases hlater
    next hkept =>
      intro op hop
      refine ⟨?_, hunpublished op hop⟩
      rw [Bool.eq_false_iff]
      exact fun hvoids => hkept (List.any_eq_true.mpr ⟨op, hop, hvoids⟩)
  · intro hduring
    have hkept : during.any (·.voids d) = false :=
      List.any_eq_false.mpr fun op hop => by simp [(hduring op hop).1]
    rw [stored?_foldl_of_no_publication fun op hop => (hduring op hop).2, hkept,
      if_neg Bool.false_ne_true, h, Option.map_some]

/-- Operations that neither make a document void nor publish a pass are none of those that do. -/
theorem forall_voids_eq_false_iff {during : List Operation} {d : DocumentUri} :
    (∀ op ∈ during, op.voids d = false ∧ op.epoch? = none) ↔
      .void d ∉ during ∧ .voidAll ∉ during ∧ ∀ e t pass, .publish e t pass ∉ during := by
  constructor
  · intro h
    refine ⟨fun hop => ?_, fun hop => ?_, fun e t pass hop => ?_⟩
    · simpa [Operation.voids] using (h _ hop).1
    · simpa [Operation.voids] using (h _ hop).1
    · simpa [Operation.epoch?] using (h _ hop).2
  · rintro ⟨hvoid, hall, hpublish⟩ op hop
    cases op with
    | beginPass => exact ⟨rfl, rfl⟩
    | publish e t pass => exact absurd hop (hpublish e t pass)
    | void e =>
        have hne : d ≠ e := fun h => hvoid (h ▸ hop)
        exact ⟨by simp [Operation.voids, hne], rfl⟩
    | voidAll => exact absurd hop hall

/-! ### What is found -/

/-- A document has a live fingerprint exactly if its file can be read; it is that of the bytes. -/
theorem liveFingerprint?_eq_some_iff {t : FileTree} {d : DocumentUri} {f : Fingerprint} :
    liveFingerprint? t d = some f ↔
      ∃ p content, d.toPath? = some p ∧ t.read p = .ok content ∧
        Fingerprint.ofBytes content = f := by
  simp only [liveFingerprint?, Option.bind_eq_some_iff,
    Pass.toOption_liveFingerprint_eq_some_iff, Pass.liveFingerprint_eq_ok_iff,
    exists_and_left]

/-- The last step of a lookup finds its entry exactly if that is what the file still fits and
what is still there. -/
theorem confirm_eq_some_iff {c : Cache} {d : DocumentUri} {e entry : CacheEntry}
    {live : Option Fingerprint} :
    c.confirm d e live = some entry ↔
      e = entry ∧ live = some entry.fingerprint ∧
        (c.stored? d).map (·.publication) = some entry.publication := by
  simp only [confirm, Bool.and_eq_true, decide_eq_true_eq]
  constructor
  · intro h
    split at h
    · cases h
      exact ⟨rfl, by assumption⟩
    · cases h
  · rintro ⟨rfl, hlive, hstill⟩
    rw [if_pos ⟨hlive, hstill⟩]

/-- **What a lookup finds.** Whatever has been done to a cache before a lookup, whatever is done
between its first step and its last, and whatever it reads: it finds an entry exactly if that was
there at its first step, the file can be read and its bytes have the fingerprint of the entry,
and in between the document was not made void, all was not made void and no pass was published.
In all other cases it finds nothing. -/
theorem lookupDuring_eq_some_iff {before during : List Operation} {d : DocumentUri}
    {t : FileTree} {entry : CacheEntry} :
    (run before).lookupDuring d during t = some entry ↔
      (run before).stored? d = some entry ∧
      (∃ p content, d.toPath? = some p ∧ t.read p = .ok content ∧
        Fingerprint.ofBytes content = entry.fingerprint) ∧
      .void d ∉ during ∧ .voidAll ∉ during ∧ ∀ e t' pass, .publish e t' pass ∉ during := by
  simp only [lookupDuring, Option.bind_eq_some_iff, confirm_eq_some_iff]
  rw [← liveFingerprint?_eq_some_iff, ← forall_voids_eq_false_iff]
  constructor
  · rintro ⟨_, hstored, rfl, hlive, hstill⟩
    exact ⟨hstored, hlive, (stored_still_iff hstored).mp hstill⟩
  · rintro ⟨hstored, hlive, hduring⟩
    exact ⟨entry, hstored, rfl, hlive, (stored_still_iff hstored).mpr hduring⟩

end PullDiagnostics.Cache
