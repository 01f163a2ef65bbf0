import PullDiagnostics.Proofs.Orchestrator.History

/-!
# Files that change together

A client tells in one message of all files that have changed, and what the message says is dealt
with change by change, each at a time of its own. In another order the same changes leave other
times behind. But no pass is told an epoch between two of them, so every pass that is published
later began before all of them or after all of them, and for such passes the times say the same.
That holds of them for good: a publication drops times by the epoch of its own pass, which cannot
tell them apart either.

## Main results

* `Cache.Alike.apply`: every operation keeps two caches alike that no epoch outside a span of time
  tells apart.
* `Cache.alike_foldl_void`: documents that are made void in two orders leave such caches.
* `Orchestrator.watched_perm`: after the changes of a message in two orders, all that is done later
  leaves the same entries.
-/

namespace PullDiagnostics

/-- Whether an epoch does not lie inside a span of time. -/
def Epoch.IsOutside (first last : ℕ) (e : Epoch) : Prop :=
  e.number ≤ first ∨ last ≤ e.number

/-- The later of two epochs outside a span is outside it. -/
theorem Epoch.IsOutside.max {first last : ℕ} {e e' : Epoch} (h : e.IsOutside first last)
    (h' : e'.IsOutside first last) : (Epoch.mk (max e.number e'.number)).IsOutside first last := by
  unfold IsOutside at *
  dsimp only
  omega

namespace Cache

/-! ### Void documents, asked for under any epoch -/

/-- After one document is made void, an epoch counts that event, even one that is still to come.
-/
theorem voidedSince_void_eq (c : Cache) (d e : DocumentUri) (E : Epoch) :
    (c.void d).voidedSince e E =
      if e = d then decide (E.number < c.clearedAt) || decide (E.number < c.epoch + 1)
      else c.voidedSince e E := by
  rw [Bool.eq_iff_iff, voidedSince_iff]
  by_cases he : e = d
  · simp [void, DocumentMap.get?_put, he]
  · simp [void, DocumentMap.get?_put, he, voidedSince_iff]

/-- After all documents are made void, only epochs still to come do not count it. -/
theorem voidedSince_voidAll_eq (c : Cache) (d : DocumentUri) (E : Epoch) :
    c.voidAll.voidedSince d E = decide (E.number < c.epoch + 1) := by
  simp only [voidedSince, voidAll, DocumentMap.get?_empty, Option.any_none, Bool.or_false]
  rfl

/-- After a publication an event counts only under the epochs that it counts under together with
that of the pass. -/
theorem voidedSince_publish_eq (c : Cache) (t : FileTree) (e : Epoch) (pass : Pass)
    (d : DocumentUri) (E : Epoch) :
    (c.publish t e pass).voidedSince d E =
      (decide (E.number < c.clearedAt) || c.voidedSince d ⟨max E.number e.number⟩) := by
  rw [Bool.eq_iff_iff, Bool.or_eq_true, decide_eq_true_eq, voidedSince_iff, voidedSince_iff]
  simp only [publish, DocumentMap.get?_filter, Option.filter_eq_some_iff, decide_eq_true_eq,
    Nat.max_lt]
  constructor
  · rintro (hcleared | ⟨n, ⟨hn, he⟩, hE⟩)
    · exact .inl hcleared
    · exact .inr (.inr ⟨n, hn, hE, he⟩)
  · rintro (hcleared | ⟨hcleared, -⟩ | ⟨n, hn, hE, he⟩)
    · exact .inl hcleared
    · exact .inl hcleared
    · exact .inr ⟨n, ⟨hn, he⟩, hE⟩

/-! ### Caches that no epoch outside a span of time tells apart -/

/-- Whether two caches differ at most in the times of events inside a span of time. -/
structure Alike (first last : ℕ) (c c' : Cache) : Prop where
  entries : c.entries = c'.entries
  epoch : c.epoch = c'.epoch
  clearedAt : c.clearedAt = c'.clearedAt
  publications : c.publications = c'.publications
  voidedSince : ∀ d {E : Epoch}, E.IsOutside first last → c.voidedSince d E = c'.voidedSince d E

namespace Alike

variable {first last : ℕ} {c c' c'' : Cache}

theorem refl (c : Cache) : Alike first last c c :=
  ⟨rfl, rfl, rfl, rfl, fun _ _ _ => rfl⟩

theorem trans (h : Alike first last c c') (h' : Alike first last c' c'') :
    Alike first last c c'' :=
  ⟨h.entries.trans h'.entries, h.epoch.trans h'.epoch, h.clearedAt.trans h'.clearedAt,
    h.publications.trans h'.publications,
    fun d _ hE => (h.voidedSince d hE).trans (h'.voidedSince d hE)⟩

/-- Making a document void keeps two caches alike. -/
theorem void (h : Alike first last c c') (d : DocumentUri) :
    Alike first last (c.void d) (c'.void d) where
  entries := congrArg (·.erase d) h.entries
  epoch := congrArg (· + 1) h.epoch
  clearedAt := h.clearedAt
  publications := h.publications
  voidedSince e E hE := by
    rw [voidedSince_void_eq, voidedSince_void_eq, h.clearedAt, h.epoch, h.voidedSince e hE]

/-- Making everything void keeps two caches alike. -/
theorem voidAll (h : Alike first last c c') : Alike first last c.voidAll c'.voidAll where
  entries := rfl
  epoch := congrArg (· + 1) h.epoch
  clearedAt := congrArg (· + 1) h.epoch
  publications := h.publications
  voidedSince d E _ := by rw [voidedSince_voidAll_eq, voidedSince_voidAll_eq, h.epoch]

/-- A pass that began outside the span leaves out the same documents, and the times that it drops
make no difference. -/
theorem publish (h : Alike first last c c') (t : FileTree) {e : Epoch}
    (he : e.IsOutside first last) (pass : Pass) :
    Alike first last (c.publish t e pass) (c'.publish t e pass) where
  entries := by
    have hkept : (fun d (_ : CacheEntry) => !c.voidedSince d e) =
        fun d _ => !c'.voidedSince d e := by
      funext d _
      rw [h.voidedSince d he]
    simp only [Cache.publish, hkept, h.publications]
  epoch := h.epoch
  clearedAt := h.clearedAt
  publications := congrArg (· + 1) h.publications
  voidedSince d E hE := by
    rw [voidedSince_publish_eq, voidedSince_publish_eq, h.clearedAt, h.voidedSince d (hE.max he)]

/-- **One operation.** It keeps the caches alike, unless it publishes a pass that began inside the
span. -/
theorem apply (h : Alike first last c c') {op : Operation}
    (hop : ∀ e ∈ op.epoch?, e.IsOutside first last) :
    Alike first last (c.apply op) (c'.apply op) := by
  cases op with
  | beginPass => exact h
  | publish e t pass => exact h.publish t (hop e rfl) pass
  | void d => exact h.void d
  | voidAll => exact h.voidAll

/-- **Any number of operations.** -/
theorem foldl_apply (h : Alike first last c c') {ops : List Operation}
    (hops : ∀ op ∈ ops, ∀ e ∈ op.epoch?, e.IsOutside first last) :
    Alike first last (ops.foldl Cache.apply c) (ops.foldl Cache.apply c') := by
  induction ops generalizing c c' with
  | nil => exact h
  | cons op rest ih =>
      exact ih (h.apply (hops op (List.mem_cons_self ..)))
        fun op' hop' => hops op' (List.mem_cons_of_mem op hop')

/-- So does making one document void after the other. -/
theorem foldl_void (h : Alike first last c c') (ds : List DocumentUri) :
    Alike first last (ds.foldl Cache.void c) (ds.foldl Cache.void c') := by
  induction ds generalizing c c' with
  | nil => exact h
  | cons d rest ih => exact ih (h.void d)

end Alike

/-! ### Documents that are made void together -/

/-- Every document made void is one tick of the clock. -/
theorem epoch_foldl_void (c : Cache) (ds : List DocumentUri) :
    (ds.foldl void c).epoch = c.epoch + ds.length := by
  induction ds generalizing c with
  | nil => rfl
  | cons d rest ih =>
      rw [List.foldl_cons, ih, List.length_cons]
      simp only [void]
      omega

/-- Two documents that are made void one after the other can change places: a pass that began
before both finds both void, and one that began after both finds neither of them void by these
events. -/
theorem alike_void_void (c : Cache) {first last : ℕ} (hfirst : first ≤ c.epoch)
    (hlast : c.epoch + 2 ≤ last) (d e : DocumentUri) :
    Alike first last ((c.void d).void e) ((c.void e).void d) where
  entries := by
    simp only [void, DocumentMap.erase, List.filter_filter, Bool.and_comm]
  epoch := rfl
  clearedAt := rfl
  publications := rfl
  voidedSince k E hE := by
    have hside : decide (E.number < c.epoch + 1 + 1) = decide (E.number < c.epoch + 1) := by
      rw [decide_eq_decide]
      unfold Epoch.IsOutside at hE
      omega
    have hepoch (k : DocumentUri) : (c.void k).epoch = c.epoch + 1 := rfl
    have hcleared (k : DocumentUri) : (c.void k).clearedAt = c.clearedAt := rfl
    simp only [voidedSince_void_eq, hepoch, hcleared, hside]
    split_ifs <;> rfl

/-- **Documents in another order.** They leave caches that no epoch tells apart but one from
between them. -/
theorem alike_foldl_void {ds es : List DocumentUri} (h : ds.Perm es) {c : Cache} {first last : ℕ}
    (hfirst : first ≤ c.epoch) (hlast : c.epoch + ds.length ≤ last) :
    Alike first last (ds.foldl void c) (es.foldl void c) := by
  induction h generalizing c with
  | nil => exact .refl c
  | cons d _ ih =>
      rw [List.length_cons] at hlast
      refine ih (c := c.void d) (Nat.le_succ_of_le hfirst) ?_
      simp only [void]
      omega
  | swap d e rest =>
      rw [List.length_cons, List.length_cons] at hlast
      exact (alike_void_void c hfirst (by omega) e d).foldl_void rest
  | trans hperm _ ih ih' => exact (ih hfirst hlast).trans (ih' hfirst (hperm.length_eq ▸ hlast))

/-! ### Passes and their epochs -/

/-- Whether every pass that is published was told its epoch no later than at a time, or else after
a cache was in a state. -/
def PublishesTold (early : ℕ) (c : Cache) (ops : List Operation) : Prop :=
  ∀ a e t pass b, ops = a ++ .publish e t pass :: b →
    e.number ≤ early ∨ ∃ x y, a = x ++ .beginPass :: y ∧ e = (x.foldl apply c).beginPass

/-- Such passes began outside the span between that time and that state. -/
theorem PublishesTold.isOutside {early : ℕ} {c : Cache} {ops : List Operation}
    (h : PublishesTold early c ops) {op : Operation} (hop : op ∈ ops) {e : Epoch}
    (he : e ∈ op.epoch?) : e.IsOutside early c.epoch := by
  obtain ⟨a, b, rfl⟩ := List.append_of_mem hop
  cases op with
  | publish e' t pass =>
      obtain rfl := Option.some.inj he
      refine (h a e' t pass b rfl).imp_right ?_
      rintro ⟨x, -, -, rfl⟩
      exact epoch_le_epoch_foldl c x
  | beginPass | void d | voidAll => simp [Operation.epoch?] at he

end Cache

namespace Orchestrator

/-- The documents that changes make void, in their order. -/
def voidedBy (changes : List (DocumentUri × FileChange)) : List DocumentUri :=
  changes.filterMap fun (d, change) => if change = .created then none else some d

/-- To the cache a message about files makes documents void, one for each change that does so.
-/
theorem operations_watched (changes : List (DocumentUri × FileChange)) :
    (Event.watched changes).operations = (voidedBy changes).map .void := by
  rw [Event.operations, voidedBy, List.map_filterMap]
  congr 1
  funext p
  by_cases h : p.2 = .created <;> simp [h]

/-- The cache after such a message. -/
theorem cache_watched (o : Orchestrator) (changes : List (DocumentUri × FileChange)) :
    (o.watched changes).cache = (voidedBy changes).foldl Cache.void o.cache := by
  have hafter := o.cache_after (.watched changes)
  rw [operations_watched, List.foldl_map] at hafter
  exact hafter

/-- **The order of changes.** A message tells of changes in some order, or of the same changes in
another one. Whatever is done to the cache later, passes being published that were told their
epochs before the message or after it, leaves the same entries after each operation, and each pass
that begins is told the same epoch. -/
theorem watched_perm {o : Orchestrator} {changes changes' : List (DocumentUri × FileChange)}
    (hperm : changes.Perm changes') {ops : List Cache.Operation}
    (hops : Cache.PublishesTold o.cache.epoch (o.watched changes).cache ops) (n : ℕ) :
    ((ops.take n).foldl Cache.apply (o.watched changes).cache).entries =
        ((ops.take n).foldl Cache.apply (o.watched changes').cache).entries ∧
      ((ops.take n).foldl Cache.apply (o.watched changes).cache).size =
        ((ops.take n).foldl Cache.apply (o.watched changes').cache).size ∧
      ((ops.take n).foldl Cache.apply (o.watched changes).cache).beginPass =
        ((ops.take n).foldl Cache.apply (o.watched changes').cache).beginPass := by
  have hlast : (o.watched changes).cache.epoch = o.cache.epoch + (voidedBy changes).length := by
    rw [cache_watched, Cache.epoch_foldl_void]
  have halike : Cache.Alike o.cache.epoch (o.watched changes).cache.epoch
      (o.watched changes).cache (o.watched changes').cache := by
    rw [cache_watched o changes', hlast, cache_watched]
    exact Cache.alike_foldl_void (hperm.filterMap _) le_rfl le_rfl
  have houtside : ∀ op ∈ ops.take n, ∀ e ∈ op.epoch?,
      e.IsOutside o.cache.epoch (o.watched changes).cache.epoch := fun op hop e he =>
    hops.isOutside (List.mem_of_mem_take hop) he
  have hlater := halike.foldl_apply houtside
  exact ⟨hlater.entries, congrArg DocumentMap.size hlater.entries,
    congrArg Epoch.mk hlater.epoch⟩

/-- An orchestrator that has published a pass. -/
def beforeMessage : Orchestrator :=
  { setup := sampleSetup
    cache := Cache.run [.beginPass, .publish ⟨0⟩ {} Cache.cleanPass] }

/-- Changes of two documents, one of them told of twice. -/
def message : List (DocumentUri × FileChange) :=
  [(Cache.oneDocument, .changed), (Cache.oneDocument, .deleted), (sampleDocument, .deleted)]

/-- A pass that began before the message is published after it, and then another one begins and is
published as well. -/
def afterMessage : List Cache.Operation :=
  [.publish ⟨0⟩ {} Cache.cleanPass, .beginPass, .publish ⟨3⟩ {} Cache.cleanPass]

/-- The changes of the message from the last one to the first leave another cache, with the same
entries from then on. -/
theorem watched_reverse_message :
    message.Perm message.reverse ∧
      Cache.PublishesTold beforeMessage.cache.epoch (beforeMessage.watched message).cache
        afterMessage ∧
      (beforeMessage.watched message).cache ≠ (beforeMessage.watched message.reverse).cache ∧
      (afterMessage.foldl Cache.apply (beforeMessage.watched message).cache).entries =
        (afterMessage.foldl Cache.apply (beforeMessage.watched message.reverse).cache).entries := by
  have hperm : message.Perm message.reverse := (List.reverse_perm message).symm
  have htold : Cache.PublishesTold beforeMessage.cache.epoch (beforeMessage.watched message).cache
      afterMessage := by
    intro a e t pass b h
    simp only [afterMessage, List.cons_eq_append_iff, List.nil_eq, List.append_eq_nil_iff,
      List.cons_ne_nil, reduceCtorEq, and_false, false_and, or_false, false_or,
      exists_false, List.cons.injEq, Cache.Operation.publish.injEq] at h
    rcases h with ⟨rfl, ⟨rfl, -, -⟩, -⟩ | ⟨_, rfl, _, rfl, rfl, ⟨rfl, -, -⟩, -⟩
    · exact .inl le_rfl
    · exact .inr ⟨[.publish ⟨0⟩ {} Cache.cleanPass], [], rfl, by decide⟩
  exact ⟨hperm, htold, by decide, (watched_perm hperm htold 3).1⟩

end Orchestrator

end PullDiagnostics
