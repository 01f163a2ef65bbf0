import Mathlib.Data.List.Induction
import Mathlib.Order.Nat
import PullDiagnostics.Cache

/-!
# Histories of a cache

A cache starts empty. From then on passes begin and are published, and events make one
document or all of them void, in any order and with any number of passes under way at a time.
This module gives such histories as lists of operations, `Cache.run`, and says how the clock
and the notes of void documents follow from them.

## Main results

* `not_voidedSince_beginPass`: when a pass begins, nothing counts as void since.
* `voidedSince_foldl`: as long as no pass that began later is published, exactly those
  documents count as void since a pass began that an event has made void in the meantime.
* `publications_run`, `publication_le_of_stored?`: publications are numbered in their order.
-/

namespace PullDiagnostics.Cache

/-- What can be done to a cache. -/
inductive Operation where
  /-- A pass begins, and is told the epoch. -/
  | beginPass
  /-- A pass that was told an epoch is published; the files are as in the tree. -/
  | publish (e : Epoch) (t : FileTree) (pass : Pass)
  /-- The content of a document has changed, or the document is gone. -/
  | void (d : DocumentUri)
  /-- Nothing that is known holds any more. -/
  | voidAll

namespace Operation

/-- Whether an operation makes a document void. -/
def voids (d : DocumentUri) : Operation → Bool
  | .void e => d = e
  | .voidAll => true
  | .beginPass | .publish _ _ _ => false

/-- The epoch that the pass was told which an operation publishes. -/
def epoch? : Operation → Option Epoch
  | .publish e _ _ => some e
  | .beginPass | .void _ | .voidAll => none

end Operation

/-- A cache after an operation. -/
def apply (c : Cache) : Operation → Cache
  | .beginPass => c
  | .publish e t pass => c.publish t e pass
  | .void d => c.void d
  | .voidAll => c.voidAll

/-- The cache after a history, the oldest operation first. -/
def run (ops : List Operation) : Cache :=
  ops.foldl apply {}

/-- A longer history goes on where a shorter one ends. -/
theorem run_append (ops more : List Operation) :
    run (ops ++ more) = more.foldl apply (run ops) :=
  List.foldl_append

/-- Whether no pass is published after one that began later. -/
def PublishedInOrder (ops : List Operation) : Prop :=
  ops.Pairwise fun a b => ∀ e ∈ a.epoch?, ∀ f ∈ b.epoch?, e.number ≤ f.number

/-! ### The clock -/

/-- No operation turns the clock back. -/
theorem epoch_le_epoch_apply (c : Cache) (op : Operation) : c.epoch ≤ (c.apply op).epoch := by
  cases op <;> simp [apply, publish, void, voidAll]

/-- The clock never runs back. -/
theorem epoch_le_epoch_foldl (c : Cache) (ops : List Operation) :
    c.epoch ≤ (ops.foldl apply c).epoch := by
  induction ops generalizing c with
  | nil => exact le_rfl
  | cons op rest ih => exact le_trans (epoch_le_epoch_apply c op) (ih (c.apply op))

/-- Whether no event is noted at a time that is still to come. -/
structure Timely (c : Cache) : Prop where
  clearedAt_le : c.clearedAt ≤ c.epoch
  voidedAt_le : ∀ {d n}, c.voidedAt.get? d = some n → n ≤ c.epoch

/-- Every operation keeps the times of the cache up to its clock. -/
theorem Timely.apply {c : Cache} (h : c.Timely) (op : Operation) : (c.apply op).Timely := by
  cases op with
  | beginPass => exact h
  | publish e t pass =>
      refine ⟨h.clearedAt_le, fun {d n} hd => ?_⟩
      simp only [Cache.apply, publish, DocumentMap.get?_filter, Option.filter_eq_some_iff] at hd
      exact h.voidedAt_le hd.1
  | void d =>
      refine ⟨Nat.le_succ_of_le h.clearedAt_le, fun {e n} he => ?_⟩
      simp only [Cache.apply, Cache.void, DocumentMap.get?_put] at he
      split at he
      · exact (Option.some.inj he).ge
      · exact Nat.le_succ_of_le (h.voidedAt_le he)
  | voidAll => exact ⟨le_rfl, fun {d n} hd => by simp [Cache.apply, Cache.voidAll] at hd⟩

/-- In every history no document was made void at a time still to come. -/
theorem timely_run (ops : List Operation) : (run ops).Timely := by
  induction ops using List.reverseRecOn with
  | nil => exact ⟨le_rfl, fun {d n} hd => by simp [run] at hd⟩
  | append_singleton ops op ih =>
      rw [run_append]
      exact ih.apply op

/-- When a pass begins, nothing counts as void since. -/
theorem not_voidedSince_beginPass (ops : List Operation) (d : DocumentUri) :
    (run ops).voidedSince d (run ops).beginPass = false := by
  rw [Bool.eq_false_iff, Ne, voidedSince_iff]
  rintro (hcleared | ⟨n, hn, hlt⟩)
  · exact absurd (timely_run ops).clearedAt_le (not_le.mpr hcleared)
  · exact absurd ((timely_run ops).voidedAt_le hn) (not_le.mpr hlt)

/-! ### Notes of void documents -/

/-- An operation makes a document count as void since a pass began if it voids it, and never
the other way round unless it publishes a pass that began later. -/
theorem voidedSince_apply {c : Cache} {E : Epoch} (hE : E.number ≤ c.epoch) {op : Operation}
    (hop : ∀ e ∈ op.epoch?, e.number ≤ E.number) (d : DocumentUri) :
    (c.apply op).voidedSince d E = (c.voidedSince d E || op.voids d) := by
  cases op with
  | beginPass => simp [apply, Operation.voids]
  | publish e t pass =>
      simpa [apply, Operation.voids] using voidedSince_publish (hop e rfl) d
  | void e => simp [apply, Operation.voids, voidedSince_void hE, Bool.or_comm]
  | voidAll => simp [apply, Operation.voids, voidedSince_voidAll hE]

/-- Between two passes that do not overlap, the documents made void since the first began are
those that an event in between names. -/
theorem voidedSince_foldl {c : Cache} {E : Epoch} (hE : E.number ≤ c.epoch)
    {ops : List Operation} (hops : ∀ op ∈ ops, ∀ e ∈ op.epoch?, e.number ≤ E.number)
    (d : DocumentUri) :
    (ops.foldl apply c).voidedSince d E = (c.voidedSince d E || ops.any (·.voids d)) := by
  induction ops generalizing c with
  | nil => simp
  | cons op rest ih =>
      have hop := hops op (List.mem_cons_self ..)
      have hrest := fun op' h => hops op' (List.mem_cons_of_mem op h)
      rw [List.foldl_cons, ih (le_trans hE (epoch_le_epoch_apply c op)) hrest,
        voidedSince_apply hE hop, List.any_cons, Bool.or_assoc]

/-! ### Publications -/

/-- Publications are counted one by one. -/
theorem publications_foldl (c : Cache) (ops : List Operation) :
    (ops.foldl apply c).publications = c.publications + ops.countP (·.epoch?.isSome) := by
  induction ops generalizing c with
  | nil => rfl
  | cons op rest ih =>
      rw [List.foldl_cons, ih, List.countP_cons]
      cases op <;> simp [apply, publish, void, voidAll, Operation.epoch?]
      omega

/-- The number of publications is that of the passes published. -/
theorem publications_run (ops : List Operation) :
    (run ops).publications = ops.countP (·.epoch?.isSome) := by
  simpa [run] using publications_foldl {} ops

/-- What is done after a publication, other than another one, only takes entries away: those
of the documents that it voids. -/
theorem stored?_foldl_of_no_publication {c : Cache} {ops : List Operation}
    (hops : ∀ op ∈ ops, op.epoch? = none) (d : DocumentUri) :
    (ops.foldl apply c).stored? d = if ops.any (·.voids d) then none else c.stored? d := by
  induction ops generalizing c with
  | nil => simp
  | cons op rest ih =>
      have hrest := fun op' h => hops op' (List.mem_cons_of_mem op h)
      rw [List.foldl_cons, ih hrest, List.any_cons]
      cases op with
      | beginPass => simp [apply, Operation.voids]
      | publish e t pass =>
          exact absurd (hops _ (List.mem_cons_self ..)) (by simp [Operation.epoch?])
      | void e => by_cases he : d = e <;> simp [apply, Operation.voids, stored?_void, he]
      | voidAll => simp [apply, Operation.voids]

/-- No entry is of a publication that is still to come. -/
theorem publication_le_of_stored? {ops : List Operation} {d : DocumentUri} {entry : CacheEntry}
    (h : (run ops).stored? d = some entry) : entry.publication ≤ (run ops).publications := by
  induction ops using List.reverseRecOn with
  | nil => cases h
  | append_singleton ops op ih =>
      rw [run_append, List.foldl_cons, List.foldl_nil] at h ⊢
      cases op with
      | beginPass => exact ih h
      | publish e t pass => exact (stored?_publish_eq_some_iff.mp h).2.2.2.2.le
      | void e =>
          rw [apply, stored?_void] at h
          split at h
          next => cases h
          next => exact ih h
      | voidAll => cases h

/-! ### A pass over one file

What follows is enough for examples of histories: a file at the root, its document, and a
complete pass that has seen the file and found nothing. -/

/-- A file at the root. -/
def oneFile : FilePath := ⟨[FilePath.slash, 0x41]⟩

/-- The document of that file. -/
def oneDocument : DocumentUri := (DocumentUri.ofPath? oneFile).get (by decide)

/-- A pass that found the file clean. -/
def cleanPass : Pass := { files := [oneFile], fingerprints := [(oneFile, ⟨7⟩)] }

end PullDiagnostics.Cache
