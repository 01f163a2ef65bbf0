import PullDiagnostics.Proofs.Cache.Lookup
import PullDiagnostics.Proofs.Cache.Snapshot
import PullDiagnostics.Proofs.Orchestrator.History

/-!
# Queries while nothing changes

Any number of queries for documents may be under way while nothing changes: no file, no document
and no setting. Those that find no entry wait for the gate, and the first that gets in runs a pass.
The pass leaves an entry for every file that it has discovered, be there findings or not, and it
is published before the gate opens again. So each of the others finds an entry on its second
lookup, which it makes inside the gate, where no publication can come in between.

This holds of the documents that a pass can find and a lookup can read. For any other document the
pass may leave no entry, and then every query for it runs a pass of its own.

## Main results

* `isSome_lookup_publish_iff`: for which documents a complete pass leaves an entry that holds.
* `exists_lookup_publish`: it leaves one for every such document.
* `Sound`: what is known of a query at each stage.
* `QuietMove.advance`: what a step of a query does to what is known of it and to what all share.
* `QuietStep.quiet`, `QuietRun.quiet`: what is known stays known, and at most one pass is published.
-/

namespace PullDiagnostics

/-- Whether a pass finds a document, and a lookup can read its file. -/
structure Findable (sources : SourceSet) (t : FileTree) (d : DocumentUri) : Prop where
  discovered : ∃ p ∈ sources.discover t, DocumentUri.ofPath? p = some d
  readable : ∃ p content, d.toPath? = some p ∧ sources.covers p = true ∧ t.read p = .ok content

/-- Whether a pass has seen all files of a source set to the end. -/
structure Pass.IsThorough (sources : SourceSet) (t : FileTree) (pass : Pass) : Prop where
  complete : pass.isComplete = true
  files_eq : pass.files = sources.discover t
  fingerprints_eq : pass.fingerprints = Pass.snapshot t pass.files

section Publication

variable {sources : SourceSet} {t : FileTree} {d : DocumentUri} {pass : Pass}

/-- A thorough pass speaks of the documents that it met or reported something about. -/
theorem Pass.IsThorough.speaksOf_iff (hpass : pass.IsThorough sources t) :
    pass.speaksOf d = true ↔ (∃ p ∈ sources.discover t, DocumentUri.ofPath? p = some d) ∨
      ∃ f ∈ pass.findings, f.uri? = some d := by
  simp [Pass.speaksOf, hpass.complete, hpass.files_eq, or_comm]

/-- As long as no file changes, a pass has seen what a lookup reads. -/
theorem Pass.IsThorough.seenFingerprint?_of_live (hpass : pass.IsThorough sources t)
    {fingerprint : Fingerprint} (hlive : Cache.liveFingerprint? t d = some fingerprint) :
    Cache.seenFingerprint? t pass d = some fingerprint := by
  obtain ⟨p, hp, hread⟩ := Option.bind_eq_some_iff.mp hlive
  rw [Cache.seenFingerprint?, hp, Option.bind_some]
  cases hnoted : pass.fingerprint? p with
  | none => exact hread
  | some noted =>
      obtain ⟨g, -, hplace, hlive'⟩ :=
        (Pass.fingerprint?_eq_some_iff hpass.fingerprints_eq).mp hnoted
      have hsame := Pass.liveFingerprint_eq_of_samePlace hlive'
        (Pass.toOption_liveFingerprint_eq_some_iff.mp hread) hplace
      rw [hsame]

/-- Whether a pass that has found something leaves an entry that holds for a document: its file can
be read, and the pass met it or reported something about it. -/
structure Leaves (sources : SourceSet) (t : FileTree) (findings : List Finding)
    (d : DocumentUri) : Prop where
  readable : (Cache.liveFingerprint? t d).isSome = true
  met : (∃ p ∈ sources.discover t, DocumentUri.ofPath? p = some d) ∨ ∃ f ∈ findings, f.uri? = some d

/-- A document that a pass finds has an entry after it, whatever the pass reports. -/
theorem Findable.leaves (hd : Findable sources t d) (findings : List Finding) :
    Leaves sources t findings d := by
  obtain ⟨p, content, hp, -, hread⟩ := hd.readable
  have hlive : Cache.liveFingerprint? t d = some (Fingerprint.ofBytes content) :=
    Cache.liveFingerprint?_eq_some_iff.mpr ⟨p, content, hp, hread, rfl⟩
  exact ⟨by rw [hlive, Option.isSome_some], .inl hd.discovered⟩

/-- A pass that is published when nothing was made void since it began leaves an entry that holds
for just the documents that can be read and that it met or reported something about. -/
theorem isSome_lookup_publish_iff (ops : List Cache.Operation) (hpass : pass.IsThorough sources t) :
    (((Cache.run ops).publish t (Cache.run ops).beginPass pass).lookup t d).isSome = true ↔
      Leaves sources t pass.findings d := by
  rw [Option.isSome_iff_exists]
  constructor
  · rintro ⟨entry, hentry⟩
    obtain ⟨hstored, hlive⟩ := Cache.lookup_eq_some.mp hentry
    obtain ⟨-, hsays, -⟩ := Cache.stored?_publish_eq_some_iff.mp hstored
    exact ⟨by rw [hlive, Option.isSome_some], hpass.speaksOf_iff.mp hsays⟩
  · rintro ⟨hreadable, hmet⟩
    obtain ⟨fingerprint, hlive⟩ := Option.isSome_iff_exists.mp hreadable
    refine ⟨⟨pass.findingsOf d, fingerprint, (Cache.run ops).publications + 1⟩,
      Cache.lookup_eq_some.mpr ⟨?_, hlive⟩⟩
    exact Cache.stored?_publish_eq_some_iff.mpr ⟨Cache.not_voidedSince_beginPass ops d,
      hpass.speaksOf_iff.mpr hmet, hpass.seenFingerprint?_of_live hlive, rfl, rfl⟩

/-- So it leaves one for every document that it finds. -/
theorem exists_lookup_publish (ops : List Cache.Operation) (hpass : pass.IsThorough sources t)
    (hd : Findable sources t d) :
    ∃ entry,
      ((Cache.run ops).publish t (Cache.run ops).beginPass pass).lookup t d = some entry :=
  Option.isSome_iff_exists.mp ((isSome_lookup_publish_iff ops hpass).mpr (hd.leaves pass.findings))

end Publication

namespace Orchestrator

/-! ### What a query may rely on -/

/-- The cache, before and after the one pass is published. -/
def cacheAfter (o : Orchestrator) (t : FileTree) : Option Pass → Cache
  | none => o.cache
  | some pass => o.cache.publish t o.cache.beginPass pass

/-- Whether the findings about a document are those of an entry that holds from the beginning, or
those of the pass. -/
def Known (o : Orchestrator) (t : FileTree) (published : Option Pass) (d : DocumentUri)
    (findings : List Finding) : Prop :=
  (∃ entry, o.cache.lookup t d = some entry ∧ findings = entry.findings) ∨
    ∃ pass, published = some pass ∧ findings = pass.findingsOf d

/-- Whether an entry was taken from the cache as it is now; outside the gate, it may also be from
before the publication. -/
def Taken (o : Orchestrator) (t : FileTree) (published : Option Pass) (d : DocumentUri)
    (inside : Bool) (entry : CacheEntry) : Prop :=
  (o.cacheAfter t published).stored? d = some entry ∨
    inside = false ∧ o.cache.stored? d = some entry

/-- Whether a pass began with what there was in the beginning, and is not yet published. -/
structure IsFirst (o : Orchestrator) (published : Option Pass) (start : PassStart) : Prop where
  unpublished : published = none
  setup_eq : start.setup = o.setup
  epoch_eq : start.epoch = o.cache.beginPass

/-- What is known of a query for a document at each stage. -/
def Sound (o : Orchestrator) (t : FileTree) (published : Option Pass) (d : DocumentUri) :
    Stage → Prop
  | .lookup _ | .waiting => True
  | .read inside entry => Taken o t published d inside entry
  | .confirm inside entry live =>
      Taken o t published d inside entry ∧ live = Cache.liveFingerprint? t d
  | .looked _ (some entry) => Known o t published d entry.findings
  | .looked inside none => inside = true → published = none
  | .discover start => IsFirst o published start
  | .snapshot start files => IsFirst o published start ∧ files = o.setup.sources.discover t
  | .check start files fingerprints =>
      IsFirst o published start ∧ files = o.setup.sources.discover t ∧
        fingerprints = Pass.snapshot t files
  | .publish start pass => IsFirst o published start ∧ pass.IsThorough o.setup.sources t
  | .passed found => found.isSome = true ∧ published = found
  | .answered answer =>
      ∃ findings, answer = o.documentAnswer findings ∧ Known o t published d findings

/-- What all queries share. -/
structure Shared (o : Orchestrator) (t : FileTree) (published : Option Pass) (now : Orchestrator) :
    Prop where
  setup_eq : now.setup = o.setup
  cache_eq : now.cache = o.cacheAfter t published
  thorough : ∀ pass ∈ published, pass.IsThorough o.setup.sources t

section Sound

variable {o now : Orchestrator} {t : FileTree} {published : Option Pass} {d : DocumentUri}
  {ops : List Cache.Operation}

/-- What a lookup confirms is known. An entry from before the publication is not confirmed after
it, since what is there by then is of a later publication. -/
theorem Taken.known (hcache : o.cache = Cache.run ops) {inside : Bool} {entry found : CacheEntry}
    (htaken : Taken o t published d inside entry)
    (hfound : (o.cacheAfter t published).confirm d entry (Cache.liveFingerprint? t d) =
      some found) : Known o t published d found.findings := by
  unfold Cache.confirm at hfound
  split at hfound
  next hconfirm =>
    cases hfound
    rw [Bool.and_eq_true, decide_eq_true_eq, decide_eq_true_eq, Option.map_eq_some_iff] at hconfirm
    obtain ⟨hlive, current, hcurrent, hsame⟩ := hconfirm
    cases published with
    | none =>
        have hstored : o.cache.stored? d = some entry := htaken.elim id And.right
        exact .inl ⟨entry, Cache.lookup_eq_some.mpr ⟨hstored, hlive⟩, rfl⟩
    | some pass =>
        refine .inr ⟨pass, rfl, ?_⟩
        rcases htaken with hnow | ⟨-, hbefore⟩
        · exact (Cache.stored?_publish_eq_some_iff.mp hnow).2.2.2.1
        · have hlater := (Cache.stored?_publish_eq_some_iff.mp hcurrent).2.2.2.2
          rw [hcache] at hbefore hlater
          have hle := Cache.publication_le_of_stored? hbefore
          omega
  next => cases hfound

/-- A lookup of such a document that finds nothing shows that there was no pass yet. -/
theorem Shared.eq_none_of_lookup (hnow : Shared o t published now)
    (hcache : o.cache = Cache.run ops) (hd : Findable o.setup.sources t d)
    (hnone : now.cache.lookup t d = none) : published = none := by
  cases published with
  | none => rfl
  | some pass =>
      obtain ⟨entry, hentry⟩ := exists_lookup_publish ops (hnow.thorough pass rfl) hd
      rw [hnow.cache_eq, cacheAfter, hcache] at hnone
      cases hentry.symm.trans hnone

/-- What is known of a query once its lookup is done. Inside the gate, a lookup that has taken an
entry confirms it, unless it does not hold. -/
theorem Taken.sound_confirm (hnow : Shared o t published now) (hcache : o.cache = Cache.run ops)
    (hd : Findable o.setup.sources t d) {inside : Bool} {entry : CacheEntry}
    (htaken : Taken o t published d inside entry) :
    Sound o t published d
      (.looked inside (now.cache.confirm d entry (Cache.liveFingerprint? t d))) := by
  rw [hnow.cache_eq]
  cases hfound : (o.cacheAfter t published).confirm d entry (Cache.liveFingerprint? t d) with
  | some found => exact htaken.known hcache hfound
  | none =>
      rintro rfl
      refine hnow.eq_none_of_lookup hcache hd ?_
      rw [hnow.cache_eq, Cache.lookup, htaken.resolve_right (by simp), Option.bind_some, hfound]

/-- The publication of the pass takes nothing from a query outside the gate. -/
theorem Sound.of_publish {stage : Stage} (h : Sound o t none d stage)
    (houtside : stage.isInside = false) (pass : Pass) : Sound o t (some pass) d stage := by
  have hknown {findings : List Finding} :
      Known o t none d findings → Known o t (some pass) d findings
    | .inl hentry => .inl hentry
  have htaken {inside : Bool} {entry : CacheEntry} (hinside : inside = false)
      (hentry : Taken o t none d inside entry) : Taken o t (some pass) d inside entry :=
    .inr ⟨hinside, hentry.elim id And.right⟩
  cases stage with
  | lookup _ | waiting => trivial
  | read inside entry => exact htaken houtside h
  | confirm inside entry live => exact ⟨htaken houtside h.1, h.2⟩
  | looked inside found =>
      cases found with
      | some entry => exact hknown h
      | none =>
          intro hinside
          exact absurd hinside (by simpa [Stage.isInside] using houtside)
  | answered answer => exact h.imp fun _ hfindings => ⟨hfindings.1, hknown hfindings.2⟩
  | discover _ | snapshot _ _ | check _ _ _ | publish _ _ | passed _ => cases houtside

end Sound

/-! ### Steps while nothing changes -/

/-- A step of a query while the files are as in a tree and every check comes to its end. -/
inductive QuietMove (o : Orchestrator) (t : FileTree) (q : Query) (isOpen : Prop) :
    Stage → Orchestrator → Stage → Prop
  | step {stage next : Stage} {o' : Orchestrator} {log : Log}
      (h : o.step t q stage = some (o', next, log)) : QuietMove o t q isOpen stage o' next
  | enter (h : isOpen) : QuietMove o t q isOpen .waiting (o.enter q).1 (o.enter q).2
  | check {start : PassStart} {files : List FilePath}
      {fingerprints : List (FilePath × Fingerprint)} (findings : List Finding) :
      QuietMove o t q isOpen (.check start files fingerprints) o
        (checked start files fingerprints ⟨findings, .done ()⟩).1

/-- One thing happens: a query for a document is issued that a pass finds, or makes a step. -/
inductive QuietStep (t : FileTree) (s : Service) : Happening → Service → Prop
  | issue {d : DocumentUri} (hd : Findable s.orchestrator.setup.sources t d) :
      QuietStep t s (.issued s.flights.length (.document d))
        { s with flights := s.flights ++ [⟨.document d, (Query.document d).start⟩] }
  | move {i : ℕ} {q : Query} {stage next : Stage} {o : Orchestrator}
      (hflight : s.flights[i]? = some ⟨q, stage⟩)
      (hmove : QuietMove s.orchestrator t q s.IsOpen stage o next) :
      QuietStep t s (.moved i stage next) ⟨o, s.flights.set i ⟨q, next⟩⟩

/-- What happens to an orchestrator with no queries under way at first, the oldest thing first, and
where it leads to. -/
inductive QuietRun (o : Orchestrator) (t : FileTree) : List Happening → Service → Prop
  | start : QuietRun o t [] ⟨o, []⟩
  | next {h : List Happening} {x : Happening} {s s' : Service} (hrun : QuietRun o t h s)
      (hstep : QuietStep t s x s') : QuietRun o t (h ++ [x]) s'

theorem QuietMove.move {o o' : Orchestrator} {t : FileTree} {q : Query} {isOpen : Prop}
    {stage next : Stage} (h : QuietMove o t q isOpen stage o' next) :
    Move o q isOpen stage o' next := by
  cases h with
  | step h => exact .step t h
  | enter h => exact .enter h
  | check findings => exact .check _

theorem QuietStep.step {t : FileTree} {s s' : Service} {x : Happening} (h : QuietStep t s x s') :
    Step s x s' := by
  cases h with
  | issue hd => exact .issue _
  | move hflight hmove => exact .move hflight hmove.move

theorem QuietRun.steps {o : Orchestrator} {t : FileTree} {h : List Happening} {s : Service}
    (hrun : QuietRun o t h s) : Steps ⟨o, []⟩ h s := by
  induction hrun with
  | start => exact .refl
  | next _ hstep ih => exact ih.next hstep.step

/-- No two queries are inside the gate. -/
theorem QuietRun.isExclusive {o : Orchestrator} {t : FileTree} {h : List Happening} {s : Service}
    (hrun : QuietRun o t h s) : s.IsExclusive :=
  hrun.steps.isExclusive (isExclusive_of_no_flights o)

/-! ### What is known stays known -/

/-- What a step of a query does to what all queries share: nothing, unless it begins the pass or
publishes it. -/
inductive Advance (o : Orchestrator) (t : FileTree) (published : Option Pass) (d : DocumentUri)
    (now : Orchestrator) : Stage → Orchestrator → Stage → Prop
  | on {stage next : Stage} (hsound : Sound o t published d next)
      (hstart : next.start? = stage.start?) (hnext : ∀ pass, next ≠ .passed (some pass)) :
      Advance o t published d now stage now next
  | begin {start : PassStart} (hfirst : IsFirst o published start) :
      Advance o t published d now (.looked true none) { now with passes := now.passes + 1 }
        (.discover start)
  | publish {start : PassStart} {pass : Pass} (hunpublished : published = none)
      (hpass : pass.IsThorough o.setup.sources t) :
      Advance o t published d now (.publish start pass)
        { now with cache := o.cacheAfter t (some pass) } (.passed (some pass))

section Quiet

variable {o : Orchestrator} {t : FileTree} {published : Option Pass} {d : DocumentUri}
  {ops : List Cache.Operation} {h : List Happening} {s s' : Service} {x : Happening}

/-- A step that a query makes in one go keeps what is known of the query. -/
theorem advance_of_step {now later : Orchestrator} {stage next : Stage} {log : Log}
    (hnow : Shared o t published now) (hcache : o.cache = Cache.run ops)
    (hd : Findable o.setup.sources t d) (hsound : Sound o t published d stage)
    (hstep : now.step t (.document d) stage = some (later, next, log)) :
    Advance o t published d now stage later next := by
  have hanswer (findings : List Finding) :
      now.documentAnswer findings = o.documentAnswer findings := by
    rw [documentAnswer, hnow.setup_eq, documentAnswer]
  cases stage with
  | lookup inside =>
      simp only [step] at hstep
      split at hstep <;> cases hstep
      next entry hstored => exact .on (.inl (hnow.cache_eq ▸ hstored)) rfl (by simp)
      next hstored =>
        refine .on (fun _ => hnow.eq_none_of_lookup hcache hd ?_) rfl (by simp)
        rw [Cache.lookup, hstored, Option.bind_none]
  | read inside entry =>
      cases hstep
      exact .on ⟨hsound, rfl⟩ rfl (by simp)
  | confirm inside entry live =>
      cases hstep
      obtain ⟨htaken, rfl⟩ := hsound
      exact .on (htaken.sound_confirm hnow hcache hd) rfl (by simp)
  | looked inside found =>
      cases found with
      | some entry =>
          cases hstep
          exact .on ⟨_, hanswer _, hsound⟩ rfl (by simp)
      | none =>
          cases inside with
          | true =>
              cases hstep
              obtain rfl := hsound rfl
              exact .begin ⟨rfl, hnow.setup_eq, congrArg Cache.beginPass hnow.cache_eq⟩
          | false =>
              obtain ⟨p, -, hp, hcovers, -⟩ := hd.readable
              have hcould : now.couldBeAnalysed d = true := by
                rw [couldBeAnalysed, hp, hnow.setup_eq, Option.any_some, hcovers]
              simp only [step, hcould, Bool.false_eq_true, if_false, if_true] at hstep
              cases hstep
              exact .on trivial rfl (by simp)
  | discover start =>
      cases hstep
      exact .on ⟨hsound, hsound.setup_eq ▸ rfl⟩ rfl (by simp)
  | snapshot start files =>
      obtain ⟨hfirst, hfiles⟩ := hsound
      simp only [step] at hstep
      split at hstep <;> cases hstep
      next hempty =>
        obtain rfl := List.isEmpty_iff.mp hempty
        exact .on ⟨hfirst, rfl, hfiles, rfl⟩ rfl (by simp)
      next => exact .on ⟨hfirst, hfiles, rfl⟩ rfl (by simp)
  | publish start pass =>
      cases hstep
      obtain ⟨⟨rfl, -, hepoch⟩, hpass⟩ := hsound
      rw [hnow.cache_eq, hepoch]
      exact .publish rfl hpass
  | passed found =>
      obtain ⟨hsome, hpassed⟩ := hsound
      cases found with
      | none => cases hsome
      | some pass =>
          subst hpassed
          cases hstep
          exact .on ⟨_, hanswer _, .inr ⟨pass, rfl, rfl⟩⟩ rfl (by simp)
  | waiting | check _ _ _ | answered _ => cases hstep

/-- **What a query does while nothing changes.** -/
theorem QuietMove.advance {now later : Orchestrator} {isOpen : Prop} {stage next : Stage}
    (hnow : Shared o t published now) (hcache : o.cache = Cache.run ops)
    (hd : Findable o.setup.sources t d) (hsound : Sound o t published d stage)
    (hmove : QuietMove now t (.document d) isOpen stage later next) :
    Advance o t published d now stage later next := by
  cases hmove with
  | step hstep => exact advance_of_step hnow hcache hd hsound hstep
  | enter hopen => exact .on trivial rfl (by rintro _ ⟨⟩)
  | check findings =>
      obtain ⟨hfirst, hfiles, hfingerprints⟩ := hsound
      exact .on ⟨hfirst, rfl, hfiles, hfingerprints⟩ rfl (by simp [checked, Pass.ofResult?])

/-- What is known of all queries, and of what they share. -/
structure Quiet (o : Orchestrator) (t : FileTree) (published : Option Pass) (s : Service) :
    Prop extends Shared o t published s.orchestrator where
  sound : ∀ {i : ℕ} {q : Query} {stage : Stage}, s.flights[i]? = some ⟨q, stage⟩ →
    ∃ d, q = .document d ∧ Findable o.setup.sources t d ∧ Sound o t published d stage
  passes_le : s.orchestrator.passes ≤ o.passes + 1
  /-- As long as no query has begun the pass, there is none. -/
  passes_eq : published = none →
    (∀ {i : ℕ} {q : Query} {stage : Stage}, s.flights[i]? = some ⟨q, stage⟩ →
      stage.start? = none) → s.orchestrator.passes = o.passes

/-- In the beginning nothing is published, and there is nothing to know. -/
theorem quiet_start (o : Orchestrator) (t : FileTree) : Quiet o t none ⟨o, []⟩ where
  setup_eq := rfl
  cache_eq := rfl
  thorough := by simp
  sound := by simp
  passes_le := Nat.le_succ _
  passes_eq _ _ := rfl

/-- A query that starts knows nothing yet. -/
theorem Quiet.issue (hs : Quiet o t published s) (hd : Findable s.orchestrator.setup.sources t d) :
    Quiet o t published
      { s with flights := s.flights ++ [⟨.document d, (Query.document d).start⟩] } where
  toShared := hs.toShared
  sound := fun {i q stage} hflight => by
    rcases getElem?_concat_eq_some_iff.mp hflight with hold | ⟨-, hnew⟩
    · exact hs.sound hold
    · cases hnew
      exact ⟨d, rfl, hs.setup_eq ▸ hd, trivial⟩
  passes_le := hs.passes_le
  passes_eq := fun hnone hidle =>
    hs.passes_eq hnone fun hflight => hidle (getElem?_concat_of_some hflight _)

section Move

variable {i : ℕ} {stage next : Stage}

/-- While a query is inside the gate, the others are outside. -/
theorem Service.IsExclusive.isInside_eq_false (hs : s.IsExclusive) {p q : Query}
    (hi : s.flights[i]? = some ⟨p, stage⟩) (hinside : stage.isInside = true) {j : ℕ}
    {stage' : Stage} (hji : j ≠ i) (hj : s.flights[j]? = some ⟨q, stage'⟩) :
    stage'.isInside = false :=
  Bool.eq_false_iff.mpr fun hinside' => hji (hs hj hi hinside' hinside)

/-- When a query moves, all is known that is known of it then, and of the others. -/
theorem Quiet.sound_set (hs : Quiet o t published s)
    (hi : s.flights[i]? = some ⟨.document d, stage⟩) {published' : Option Pass}
    (hnext : Sound o t published' d next)
    (hothers : ∀ {j : ℕ} {q : Query} {stage : Stage}, j ≠ i →
      s.flights[j]? = some ⟨q, stage⟩ → ∀ e, Sound o t published e stage →
        Sound o t published' e stage)
    {j : ℕ} {q : Query} {stage' : Stage}
    (hj : (s.flights.set i ⟨.document d, next⟩)[j]? = some ⟨q, stage'⟩) :
    ∃ d, q = .document d ∧ Findable o.setup.sources t d ∧ Sound o t published' d stage' := by
  rcases (getElem?_set_eq_some_iff (lt_length_of_getElem? hi)).mp hj with
    ⟨rfl, hmoved⟩ | ⟨hji, hold⟩
  · cases hmoved
    obtain ⟨_, ⟨⟩, hd, -⟩ := hs.sound hi
    exact ⟨d, rfl, hd, hnext⟩
  · obtain ⟨e, he, hfindable, hsound⟩ := hs.sound hold
    exact ⟨e, he, hfindable, hothers hji hold e hsound⟩

/-- A query goes on, and all others stay where they are. -/
theorem Quiet.on (hs : Quiet o t published s) (hi : s.flights[i]? = some ⟨.document d, stage⟩)
    (hnext : Sound o t published d next) (hstart : next.start? = stage.start?) :
    Quiet o t published ⟨s.orchestrator, s.flights.set i ⟨.document d, next⟩⟩ where
  toShared := hs.toShared
  sound := hs.sound_set hi hnext fun _ _ _ => id
  passes_le := hs.passes_le
  passes_eq := fun hnone hidle => hs.passes_eq hnone fun {j q stage'} hj => by
    by_cases hji : j = i
    · subst hji
      cases hi.symm.trans hj
      exact hstart ▸ hidle (List.getElem?_set_self (lt_length_of_getElem? hi))
    · exact hidle ((List.getElem?_set_ne (Ne.symm hji)).trans hj)

/-- The query that begins the pass is alone inside the gate, so there was none before. -/
theorem Quiet.begin (hs : Quiet o t published s) (hexclusive : s.IsExclusive)
    (hi : s.flights[i]? = some ⟨.document d, .looked true none⟩) {start : PassStart}
    (hfirst : IsFirst o published start) :
    Quiet o t published
      ⟨{ s.orchestrator with passes := s.orchestrator.passes + 1 },
        s.flights.set i ⟨.document d, .discover start⟩⟩ where
  setup_eq := hs.setup_eq
  cache_eq := hs.cache_eq
  thorough := hs.thorough
  sound :=
    have hnext : Sound o t published d (.discover start) := hfirst
    hs.sound_set hi hnext fun _ _ _ => id
  passes_le := by
    have hpasses := hs.passes_eq hfirst.unpublished fun {j q stage} hj => by
      by_cases hji : j = i
      · subst hji
        cases hi.symm.trans hj
        rfl
      · have houtside := hexclusive.isInside_eq_false hi rfl hji hj
        refine Option.eq_none_iff_forall_ne_some.mpr fun start' hstart' => ?_
        exact absurd (Stage.isInside_of_start? hstart') (by simp [houtside])
    exact (congrArg (· + 1) hpasses).le
  passes_eq := fun _ hidle => by
    cases hidle (List.getElem?_set_self (lt_length_of_getElem? hi))

/-- The query that publishes the pass is alone inside the gate, so the others lose nothing. -/
theorem Quiet.publish (hs : Quiet o t none s) (hexclusive : s.IsExclusive) {start : PassStart}
    {pass : Pass} (hi : s.flights[i]? = some ⟨.document d, .publish start pass⟩)
    (hpass : pass.IsThorough o.setup.sources t) :
    Quiet o t (some pass)
      ⟨{ s.orchestrator with cache := o.cacheAfter t (some pass) },
        s.flights.set i ⟨.document d, .passed (some pass)⟩⟩ where
  setup_eq := hs.setup_eq
  cache_eq := rfl
  thorough := by
    rintro _ ⟨⟩
    exact hpass
  sound :=
    have hnext : Sound o t (some pass) d (.passed (some pass)) := ⟨rfl, rfl⟩
    hs.sound_set hi hnext fun hji hj e hsound =>
      hsound.of_publish (hexclusive.isInside_eq_false hi rfl hji hj) pass
  passes_le := hs.passes_le
  passes_eq := by simp

end Move

/-- Whether a query publishes a pass. -/
def PublishesPass (x : Happening) (pass : Pass) : Prop :=
  ∃ i start, x = .moved i (.publish start pass) (.passed (some pass))

/-- Either nothing is published, or the pass is, and it is the first. -/
theorem QuietStep.quiet (hcache : o.cache = Cache.run ops) (hs : Quiet o t published s)
    (hexclusive : s.IsExclusive) (hstep : QuietStep t s x s') :
    (Quiet o t published s' ∧ ∀ pass, ¬ PublishesPass x pass) ∨
      published = none ∧ ∃ pass, Quiet o t (some pass) s' ∧ PublishesPass x pass := by
  cases hstep with
  | issue hd => exact .inl ⟨hs.issue hd, by simp [PublishesPass]⟩
  | @move i q stage next later hi hmove =>
      obtain ⟨d, rfl, hd, hsound⟩ := hs.sound hi
      cases hmove.advance hs.toShared hcache hd hsound with
      | on hnext hstart hother =>
          refine .inl ⟨hs.on hi hnext hstart, ?_⟩
          rintro pass ⟨_, _, ⟨⟩⟩
          exact hother pass rfl
      | begin hfirst => exact .inl ⟨hs.begin hexclusive hi hfirst, by simp [PublishesPass]⟩
      | @publish start pass hunpublished hpass =>
          subst hunpublished
          exact .inr ⟨rfl, pass, hs.publish hexclusive hi hpass, i, start, rfl⟩

/-- Whether a pass is published in a history. -/
def PublishedIn (h : List Happening) (pass : Pass) : Prop :=
  ∃ x ∈ h, PublishesPass x pass

/-- In a quiet run at most one pass is published, and all queries rely on it alone. -/
theorem QuietRun.quiet (hcache : o.cache = Cache.run ops) (hrun : QuietRun o t h s) :
    ∃ published, Quiet o t published s ∧ ∀ pass, PublishedIn h pass ↔ published = some pass := by
  induction hrun with
  | start => exact ⟨none, quiet_start o t, by simp [PublishedIn]⟩
  | @next h x s s' hrun hstep ih =>
      obtain ⟨published, hquiet, hiff⟩ := ih
      have happend (pass : Pass) :
          PublishedIn (h ++ [x]) pass ↔ PublishedIn h pass ∨ PublishesPass x pass := by
        simp [PublishedIn, or_and_right, exists_or]
      rcases hstep.quiet hcache hquiet hrun.isExclusive with
        ⟨hquiet', hnone⟩ | ⟨rfl, pass, hquiet', hpublishes⟩
      · exact ⟨published, hquiet', fun pass => by rw [happend, hiff, or_iff_left (hnone pass)]⟩
      · refine ⟨some pass, hquiet', fun pass' => ?_⟩
        rw [happend, hiff]
        obtain ⟨i, start, rfl⟩ := hpublishes
        simp only [reduceCtorEq, false_or, Option.some.injEq]
        constructor
        · rintro ⟨_, _, ⟨⟩⟩
          rfl
        · rintro rfl
          exact ⟨i, start, rfl⟩

end Quiet

end Orchestrator

end PullDiagnostics
