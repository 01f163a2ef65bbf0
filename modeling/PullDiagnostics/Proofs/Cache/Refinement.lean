import PullDiagnostics.Proofs.Cache.History

/-!
# A cache and its whole history

A cache remembers of every event no more than the last time that it made a document void, and
forgets even that when a pass is published that began later. As long as passes are published in
the order of their beginnings, nothing is lost by this: what is cached is what the whole
history says.

## Main results

* `stored?_after_publication_iff`: which documents are cached after a publication, and with
  what, in terms of the pass, the files and the events since the pass began.
-/

namespace PullDiagnostics.Cache

/-- What counts as void when a pass is published in order is what events have made void since
the pass began. -/
theorem voidedSince_run {before during : List Operation}
    (hordered : ∀ op ∈ before ++ .beginPass :: during, ∀ e ∈ op.epoch?,
      e.number ≤ (run before).beginPass.number) (d : DocumentUri) :
    (run (before ++ .beginPass :: during)).voidedSince d (run before).beginPass =
      during.any (·.voids d) := by
  have hduring : ∀ op ∈ during, ∀ e ∈ op.epoch?, e.number ≤ (run before).beginPass.number :=
    fun op h => hordered op (List.mem_append_right _ (List.mem_cons_of_mem _ h))
  rw [run_append, List.foldl_cons, apply, voidedSince_foldl le_rfl hduring,
    not_voidedSince_beginPass, Bool.false_or]

/-- **A cache is refined by its history.** Passes are published in order, the last of them
under the epoch that was told after `before`; nothing is published in `after`. Then a document
is cached exactly if the pass has a finding about it or, being complete, has it among its
files; if it can be fingerprinted; and if no event has made it void since the pass began. Its
entry holds the findings of the pass about it, in their order. -/
theorem stored?_after_publication_iff {before during after : List Operation} {t : FileTree}
    {pass : Pass}
    (hordered : PublishedInOrder
      (before ++ .beginPass :: during ++ [.publish (run before).beginPass t pass]))
    (hafter : ∀ op ∈ after, op.epoch? = none) {d : DocumentUri} {entry : CacheEntry} :
    (run (before ++ .beginPass :: during ++
        .publish (run before).beginPass t pass :: after)).stored? d = some entry ↔
      ((∃ f ∈ pass.findings, f.uri? = some d) ∨
        pass.isComplete = true ∧ ∃ p ∈ pass.files, DocumentUri.ofPath? p = some d) ∧
      seenFingerprint? t pass d = some entry.fingerprint ∧
      (∀ op ∈ during ++ after, op.voids d = false) ∧
      entry.findings = pass.findingsOf d ∧
      entry.publication = (before ++ during).countP (·.epoch?.isSome) + 1 := by
  have hearlier : ∀ op ∈ before ++ .beginPass :: during, ∀ e ∈ op.epoch?,
      e.number ≤ (run before).beginPass.number := fun op hop e he =>
    (List.pairwise_append.mp hordered).2.2 op hop _ (List.mem_singleton_self _) e he _ rfl
  have hspeaks : pass.speaksOf d = true ↔
      (∃ f ∈ pass.findings, f.uri? = some d) ∨
        pass.isComplete = true ∧ ∃ p ∈ pass.files, DocumentUri.ofPath? p = some d := by
    simp [Pass.speaksOf]
  have hnumber : (run (before ++ .beginPass :: during)).publications =
      (before ++ during).countP (·.epoch?.isSome) := by
    simp [publications_run, Operation.epoch?]
  rw [run_append, List.foldl_cons, apply, stored?_foldl_of_no_publication hafter]
  simp only [List.mem_append, or_imp, forall_and]
  cases hlost : after.any (·.voids d) with
  | true =>
      obtain ⟨op, hop, hvoids⟩ := List.any_eq_true.mp hlost
      simp only [if_true, reduceCtorEq, false_iff]
      rintro ⟨-, -, ⟨-, hkept⟩, -⟩
      exact absurd (hkept op hop) (by simp [hvoids])
  | false =>
      have hkept : ∀ op ∈ after, op.voids d = false := by simpa using hlost
      have hduring : during.any (·.voids d) = false ↔ ∀ op ∈ during, op.voids d = false := by
        simp
      rw [if_neg Bool.false_ne_true, stored?_publish_eq_some_iff, voidedSince_run hearlier,
        hspeaks, hnumber, hduring]
      constructor
      · rintro ⟨hvoids, hspeaks, hseen, hfindings, hpublication⟩
        exact ⟨hspeaks, hseen, ⟨hvoids, hkept⟩, hfindings, hpublication⟩
      · rintro ⟨hspeaks, hseen, ⟨hvoids, -⟩, hfindings, hpublication⟩
        exact ⟨hvoids, hspeaks, hseen, hfindings, hpublication⟩

/-- Two passes are published in order, with an event between their beginnings and another pass
beginning at the end: the document is cached as the second one has seen it. -/
theorem stored?_after_second_publication :
    PublishedInOrder [.beginPass, .void oneDocument, .beginPass, .publish ⟨0⟩ {} cleanPass,
      .publish ⟨1⟩ {} cleanPass] ∧
    (run [.beginPass, .void oneDocument, .beginPass, .publish ⟨0⟩ {} cleanPass,
      .publish ⟨1⟩ {} cleanPass, .beginPass]).stored? oneDocument = some ⟨[], ⟨7⟩, 2⟩ := by
  have hordered : PublishedInOrder [.beginPass, .void oneDocument, .beginPass,
      .publish ⟨0⟩ {} cleanPass, .publish ⟨1⟩ {} cleanPass] := by
    simp [PublishedInOrder, Operation.epoch?]
  have hafter : ∀ op ∈ [Operation.beginPass], op.epoch? = none := by simp [Operation.epoch?]
  refine ⟨hordered, (@stored?_after_publication_iff [.beginPass, .void oneDocument]
    [.publish ⟨0⟩ {} cleanPass] [.beginPass] {} cleanPass hordered hafter _ _).mpr ?_⟩
  exact ⟨.inr ⟨rfl, oneFile, by decide, by decide⟩, by decide, by decide, rfl, rfl⟩

end PullDiagnostics.Cache
