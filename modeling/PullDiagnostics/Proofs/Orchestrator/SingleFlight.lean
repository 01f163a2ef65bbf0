import PullDiagnostics.Proofs.Orchestrator.Quiet

/-!
# Queries that share a pass

While nothing changes, one pass is enough for all queries for documents that it finds, however
they overlap: each is answered from an entry that held before, or with the findings of that pass.
And each is answered, since some query can always go on and every step brings one nearer to its
answer.

## Main results

* `Quiet.exists_step`: no query keeps all others waiting.
* `QuietRun.countP_isMove_le`: the number of steps is bounded by the number of queries.
* `QuietRun.single_flight`: there is one pass at most, and it answers all that no entry from before
  answers.
-/

namespace PullDiagnostics.Orchestrator

section Quiet

variable {o : Orchestrator} {t : FileTree} {published : Option Pass} {d : DocumentUri}
  {ops : List Cache.Operation} {h : List Happening} {s s' : Service} {x : Happening}

/-! ### Every query comes to its answer -/

/-- A query for a document can go on, unless it waits or is answered. -/
theorem exists_quietMove (now : Orchestrator) (t : FileTree) (d : DocumentUri) (isOpen : Prop)
    {stage : Stage} (hwaiting : stage ≠ .waiting) (hanswered : ∀ answer, stage ≠ .answered answer) :
    ∃ later next, QuietMove now t (.document d) isOpen stage later next := by
  have hstep (h : (now.step t (.document d) stage).isSome = true) :
      ∃ later next, QuietMove now t (.document d) isOpen stage later next := by
    obtain ⟨⟨later, next, log⟩, hsome⟩ := Option.isSome_iff_exists.mp h
    exact ⟨later, next, .step hsome⟩
  cases stage with
  | waiting => exact absurd rfl hwaiting
  | answered answer => exact absurd rfl (hanswered answer)
  | check start files fingerprints => exact ⟨_, _, .check []⟩
  | lookup inside =>
      refine hstep ?_
      simp only [Orchestrator.step]
      split <;> rfl
  | looked inside found =>
      refine hstep ?_
      cases found with
      | some entry => rfl
      | none =>
          simp only [Orchestrator.step]
          split
          · rfl
          · split <;> rfl
  | snapshot start files =>
      refine hstep ?_
      simp only [Orchestrator.step]
      split <;> rfl
  | read _ _ | confirm _ _ _ | discover _ | publish _ _ | passed _ => exact hstep rfl

/-- As long as a query is not answered, some query can make a step. -/
theorem Quiet.exists_step (hs : Quiet o t published s) {i : ℕ} {q : Query} {stage : Stage}
    (hflight : s.flights[i]? = some ⟨q, stage⟩) (hanswered : ∀ answer, stage ≠ .answered answer) :
    ∃ j stage next s', QuietStep t s (.moved j stage next) s' := by
  have hgo {j : ℕ} {q : Query} {stage : Stage} (hj : s.flights[j]? = some ⟨q, stage⟩)
      (hwaiting : stage ≠ .waiting) (hanswered : ∀ answer, stage ≠ .answered answer) :
      ∃ j stage next s', QuietStep t s (.moved j stage next) s' := by
    obtain ⟨d, rfl, -⟩ := hs.sound hj
    obtain ⟨later, next, hmove⟩ := exists_quietMove s.orchestrator t d s.IsOpen hwaiting hanswered
    exact ⟨j, stage, next, _, .move hj hmove⟩
  by_cases hwaiting : stage = .waiting
  · subst hwaiting
    by_cases hopen : s.IsOpen
    · exact ⟨i, _, _, _, .move hflight (.enter hopen)⟩
    · -- Whoever is inside can go on.
      simp only [Service.IsOpen, not_forall, Bool.not_eq_false] at hopen
      obtain ⟨⟨p, stage'⟩, hf, hinside⟩ := hopen
      obtain ⟨j, hj⟩ := List.getElem?_of_mem hf
      exact hgo hj (by rintro rfl; cases hinside) (by rintro answer rfl; cases hinside)
  · exact hgo hflight hwaiting hanswered

/-- How many steps all queries are from their answers at most. -/
def Service.rank (s : Service) : ℕ :=
  s.flights.foldr (fun f n => f.stage.rank + n) 0

/-- Whether a query makes a step. -/
def Happening.isMove : Happening → Bool
  | .moved _ _ _ => true
  | .issued _ _ | .event _ => false

/-- Another query adds the steps that it is from its answer. -/
theorem Service.rank_concat (o : Orchestrator) (flights : List Flight) (f : Flight) :
    (⟨o, flights ++ [f]⟩ : Service).rank = (⟨o, flights⟩ : Service).rank + f.stage.rank := by
  simp only [rank]
  induction flights with
  | nil => simp
  | cons first rest ih =>
      rw [List.cons_append, List.foldr_cons, List.foldr_cons, ih, Nat.add_assoc]

/-- When a query changes its stage, the other queries count as before. -/
theorem Service.rank_set (o : Orchestrator) {i : ℕ} {f : Flight}
    (hflight : s.flights[i]? = some f) (g : Flight) :
    (⟨o, s.flights.set i g⟩ : Service).rank + f.stage.rank = s.rank + g.stage.rank := by
  obtain ⟨now, flights⟩ := s
  simp only [rank] at hflight ⊢
  induction flights generalizing i with
  | nil => simp at hflight
  | cons first rest ih =>
      cases i with
      | zero =>
          cases hflight
          simp only [List.set_cons_zero, List.foldr_cons]
          omega
      | succ i =>
          have hrest := ih hflight
          simp only [List.set_cons_succ, List.foldr_cons]
          omega

/-- Each query makes fourteen steps at most. -/
theorem QuietRun.countP_isMove_le (hrun : QuietRun o t h s) :
    h.countP (·.isMove) + s.rank ≤ 14 * s.flights.length := by
  induction hrun with
  | start => simp [Service.rank]
  | @next h x s s' hrun hstep ih =>
      rw [List.countP_append, List.countP_singleton]
      cases hstep with
      | @issue d hd =>
          have hrank :
              (⟨s.orchestrator, s.flights ++ [⟨.document d, .lookup false⟩]⟩ : Service).rank =
                s.rank + 14 := Service.rank_concat s.orchestrator s.flights _
          have hnone : (Happening.issued s.flights.length (.document d)).isMove = false := rfl
          rw [hnone, if_neg Bool.false_ne_true, Query.start, hrank, List.length_append,
            List.length_singleton]
          omega
      | @move i q stage next later hflight hmove =>
          have hlt : next.rank < stage.rank := hmove.move.rank_lt
          have hrank : (⟨later, s.flights.set i ⟨q, next⟩⟩ : Service).rank + stage.rank =
              s.rank + next.rank := Service.rank_set later hflight ⟨q, next⟩
          have hone : (Happening.moved i stage next).isMove = true := rfl
          rw [hone, if_pos rfl, List.length_set]
          omega

/-! ### Two queries that overlap

For an example: two queries for a document, on an orchestrator whose cache is empty. Both have
looked and found nothing when the first of them enters the gate. -/

/-- The one file is found and can be read. -/
theorem findable_sampleDocument : Findable sampleSetup.sources sampleTree sampleDocument where
  discovered := ⟨samplePath, by rw [discover_sampleTree]; exact List.mem_singleton_self _,
    by decide⟩
  readable := ⟨samplePath, [], by decide, by decide, by cbv⟩

/-- What both queries are told. -/
def sharedAnswer : Answer := .document (sampleSetup.presenter.presentAll firstPass.findings)

/-- The orchestrator before the pass. -/
def beforePass : Orchestrator := { setup := sampleSetup }

/-- The orchestrator during the pass. -/
def duringPass : Orchestrator := { beforePass with passes := 1 }

/-- The orchestrator after the pass. -/
def afterPass : Orchestrator :=
  { duringPass with cache := ({} : Cache).publish sampleTree ⟨0⟩ firstPass }

/-- Both queries, each at a stage. -/
def bothAt (o : Orchestrator) (a b : Stage) : Service :=
  ⟨o, [⟨.document sampleDocument, a⟩, ⟨.document sampleDocument, b⟩]⟩

/-- The gate is open while neither query is inside. -/
theorem isOpen_bothAt (o : Orchestrator) {a b : Stage} (ha : a.isInside = false)
    (hb : b.isInside = false) : (bothAt o a b).IsOpen := by
  rintro f (_ | ⟨_, _ | ⟨_, ⟨⟩⟩⟩)
  · exact ha
  · exact hb

/-- What the first lookup inside the gate after the pass finds. -/
theorem exists_entry_afterPass :
    ∃ entry, afterPass.cache.stored? sampleDocument = some entry ∧
      entry.findings = firstPass.findings ∧
      afterPass.cache.confirm sampleDocument entry
        (Cache.liveFingerprint? sampleTree sampleDocument) = some entry := by
  have hpass : firstPass.IsThorough sampleSetup.sources sampleTree :=
    ⟨rfl, discover_sampleTree.symm, rfl⟩
  obtain ⟨entry, hentry⟩ := exists_lookup_publish [] hpass findable_sampleDocument
  have hstored : afterPass.cache.stored? sampleDocument = some entry :=
    (Cache.lookup_eq_some.mp hentry).1
  refine ⟨entry, hstored, ?_, ?_⟩
  · have hall : firstPass.findingsOf sampleDocument = firstPass.findings := by decide
    rw [(Cache.stored?_publish_eq_some_iff.mp hstored).2.2.2.1, hall]
  · simp [Cache.confirm, (Cache.lookup_eq_some.mp hentry).2, hstored]

/-- Both queries can be answered with one pass. -/
theorem run_bothAt :
    ∃ h, QuietRun beforePass sampleTree h
      (bothAt afterPass (.answered sharedAnswer) (.answered sharedAnswer)) := by
  have hfirst {o o' : Orchestrator} {a b c : Stage}
      (hmove : QuietMove o sampleTree (.document sampleDocument) (bothAt o a b).IsOpen a o' c) :
      QuietStep sampleTree (bothAt o a b) (.moved 0 a c) (bothAt o' c b) := .move rfl hmove
  have hsecond {o o' : Orchestrator} {a b c : Stage}
      (hmove : QuietMove o sampleTree (.document sampleDocument) (bothAt o a b).IsOpen b o' c) :
      QuietStep sampleTree (bothAt o a b) (.moved 1 b c) (bothAt o' a c) := .move rfl hmove
  have h₁ := QuietRun.start (o := beforePass) (t := sampleTree)
  have h₂ := h₁.next (.issue findable_sampleDocument)
  have h₃ : QuietRun _ _ _ (bothAt beforePass (.lookup false) (.lookup false)) :=
    h₂.next (.issue findable_sampleDocument)
  -- Both look and find nothing.
  have h₄ := h₃.next (hfirst (.step rfl))
  have h₅ := h₄.next (hsecond (.step rfl))
  have h₆ := h₅.next (hfirst (c := .waiting) (.step rfl))
  have h₇ := h₆.next (hsecond (c := .waiting) (.step rfl))
  -- The first gets in, finds nothing again and runs a pass.
  have h₈ : QuietRun _ _ _ (bothAt beforePass (.lookup true) .waiting) :=
    h₇.next (hfirst (.enter (isOpen_bothAt _ rfl rfl)))
  have h₉ := h₈.next (hfirst (.step rfl))
  have h₁₀ : QuietRun _ _ _ (bothAt duringPass (.discover firstStart) .waiting) :=
    h₉.next (hfirst (.step rfl))
  have h₁₁ := h₁₀.next (hfirst (c := .snapshot firstStart [samplePath])
    (.step (by rw [← discover_sampleTree]; rfl)))
  have h₁₂ := h₁₁.next (hfirst (.step rfl))
  have h₁₃ : QuietRun _ _ _ (bothAt duringPass (.publish firstStart firstPass) .waiting) :=
    h₁₂.next (hfirst (.check firstPass.findings))
  have h₁₄ : QuietRun _ _ _ (bothAt afterPass (.passed (some firstPass)) .waiting) :=
    h₁₃.next (hfirst (.step rfl))
  have h₁₅ := h₁₄.next (hfirst (c := .answered sharedAnswer) (.step rfl))
  -- The second gets in and finds what the pass has left.
  have h₁₆ : QuietRun _ _ _ (bothAt afterPass (.answered sharedAnswer) (.lookup true)) :=
    h₁₅.next (hsecond (.enter (isOpen_bothAt _ rfl rfl)))
  obtain ⟨entry, hstored, hfindings, hconfirm⟩ := exists_entry_afterPass
  have htake : afterPass.step sampleTree (.document sampleDocument) (.lookup true) =
      some (afterPass, .read true entry, []) := by
    simp only [step, hstored]
  have hkeep : afterPass.step sampleTree (.document sampleDocument)
      (.confirm true entry (Cache.liveFingerprint? sampleTree sampleDocument)) =
      some (afterPass, .looked true (some entry), []) := by
    simp only [step, hconfirm]
  have htell : afterPass.step sampleTree (.document sampleDocument) (.looked true (some entry)) =
      some (afterPass, .answered sharedAnswer, []) := by
    simp only [step, documentAnswer, hfindings]
    rfl
  have h₁₇ := h₁₆.next (hsecond (.step htake))
  have h₁₈ := h₁₇.next (hsecond (.step rfl))
  have h₁₉ := h₁₈.next (hsecond (.step hkeep))
  have h₂₀ := h₁₉.next (hsecond (.step htell))
  exact ⟨_, h₂₀⟩

/-- **Single flight.** Nothing changes while any number of queries for documents that a pass finds
are under way on an orchestrator, whatever its cache has been through: no file, no document and no
setting, and every check comes to its end. Then one pass begins at most and one is published at
most, and every query that is answered shows what an entry says that held from the beginning, or
what the pass has found about its document. As long as a query is not answered some query can make
a step, and all queries together make fourteen steps for each at most. -/
theorem QuietRun.single_flight (hcache : o.cache = Cache.run ops) (hrun : QuietRun o t h s) :
    s.orchestrator.passes ≤ o.passes + 1 ∧
    (∀ {pass pass' : Pass}, PublishedIn h pass → PublishedIn h pass' → pass = pass') ∧
    (∀ {i : ℕ} {d : DocumentUri} {answer : Answer},
      s.flights[i]? = some ⟨.document d, .answered answer⟩ →
      (∃ entry, o.cache.lookup t d = some entry ∧ answer = o.documentAnswer entry.findings) ∨
        ∃ pass, PublishedIn h pass ∧ answer = o.documentAnswer (pass.findingsOf d)) ∧
    (∀ {i : ℕ} {q : Query} {stage : Stage},
      s.flights[i]? = some ⟨q, stage⟩ → (∀ answer, stage ≠ .answered answer) →
      ∃ j stage next s', QuietStep t s (.moved j stage next) s') ∧
    h.countP (·.isMove) ≤ 14 * s.flights.length := by
  obtain ⟨published, hquiet, hiff⟩ := hrun.quiet hcache
  refine ⟨hquiet.passes_le, fun {pass pass'} hpass hpass' => ?_, fun {i d answer} hflight => ?_,
    hquiet.exists_step, ?_⟩
  · exact Option.some.inj (((hiff pass).mp hpass).symm.trans ((hiff pass').mp hpass'))
  · obtain ⟨_, ⟨⟩, -, findings, rfl, ⟨entry, hentry, rfl⟩ | ⟨pass, hpass, rfl⟩⟩ :=
      hquiet.sound hflight
    · exact .inl ⟨entry, hentry, rfl⟩
    · exact .inr ⟨pass, (hiff pass).mpr hpass, rfl⟩
  · exact le_trans (Nat.le_add_right _ _) hrun.countP_isMove_le

/-- Both queries of the example are answered from the one pass. -/
theorem single_flight_of_bothAt :
    ∃ h, QuietRun beforePass sampleTree h
        (bothAt afterPass (.answered sharedAnswer) (.answered sharedAnswer)) ∧
      afterPass.passes ≤ beforePass.passes + 1 ∧
      ∃ pass, PublishedIn h pass ∧
        sharedAnswer = beforePass.documentAnswer (pass.findingsOf sampleDocument) := by
  obtain ⟨h, hrun⟩ := run_bothAt
  have hempty : beforePass.cache = Cache.run [] := rfl
  obtain ⟨hpasses, -, hanswers, -⟩ := hrun.single_flight hempty
  refine ⟨h, hrun, hpasses, ?_⟩
  rcases hanswers (i := 1) rfl with ⟨_, ⟨⟩, -⟩ | hpass
  exact hpass

end Quiet

end PullDiagnostics.Orchestrator
