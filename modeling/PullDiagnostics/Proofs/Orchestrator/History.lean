import Mathlib.Data.List.Permutation
import Mathlib.Order.Basic
import PullDiagnostics.Orchestrator.Basic
import PullDiagnostics.Proofs.Cache.History

/-!
# Histories of an orchestrator

Any number of queries can be under way at a time, each at a stage of its own, and what the
client tells of documents and settings comes in between any two of their steps. This module
gives such histories as lists of what happens, `Orchestrator.Run`, each thing at the time that
is its place in the list; `Orchestrator.Steps` is the same from any state on. The files may be
others at every step.

## Main results

* `Move.effect`: all that a step of a query can do.
* `Move.rank_lt`: every step brings a query nearer to its answer.
* `stored?_after`, `voidedSince_after`: what an event does to the cache.
* `Step.isExclusive`, `Run.exclusive`: no two queries are inside the gate.
* `Run.exists_cache_eq_run`: a cache is only ever changed by its operations.
* `Run.issued_before_moved`: a query makes steps only after it was issued.
-/

namespace PullDiagnostics

/-- Where a query goes on when the lookup or the pass beside it dies. -/
def Stage.lost? : Stage → Option Stage
  | .lookup inside | .read inside _ | .confirm inside _ _ => some (.looked inside none)
  | .discover _ | .snapshot _ _ | .check _ _ _ | .publish _ _ => some (.passed none)
  | .looked _ _ | .waiting | .passed _ | .answered _ => none

/-- The pass that a query has begun and not yet published. -/
def Stage.start? : Stage → Option PassStart
  | .discover start | .snapshot start _ | .check start _ _ | .publish start _ => some start
  | .lookup _ | .read _ _ | .confirm _ _ _ | .looked _ _ | .waiting | .passed _
  | .answered _ => none

/-- The entry that a lookup has taken and not yet found to be still there. -/
def Stage.pending? : Stage → Option CacheEntry
  | .read _ entry | .confirm _ entry _ => some entry
  | .lookup _ | .looked _ _ | .waiting | .discover _ | .snapshot _ _ | .check _ _ _
  | .publish _ _ | .passed _ | .answered _ => none

/-- Whether a query has looked, or waited for a pass, and has nothing. -/
def Stage.isEmptyHanded : Stage → Bool
  | .looked _ none | .passed none => true
  | _ => false

/-- No query starts inside the gate. -/
theorem Query.isInside_start (q : Query) : q.start.isInside = false := by
  cases q <;> rfl

/-- A pass runs inside the gate. -/
theorem Stage.isInside_of_start? {stage : Stage} {start : PassStart}
    (h : stage.start? = some start) : stage.isInside = true := by
  cases stage <;> first | rfl | cases h

/-- The answer of a query that has found nothing. -/
def Query.noFindings : Query → Answer
  | .document _ => .document []
  | .workspace => .workspace []

namespace Orchestrator

/-! ### Events -/

/-- What a client can tell. -/
inductive Event where
  | opened (d : DocumentUri) (version : Int)
  | changed (d : DocumentUri) (version : Int)
  | closed (d : DocumentUri)
  | watched (changes : List (DocumentUri × FileChange))
  | configurationChanged
  | reconfigure (setup : Setup)

/-- Whether an event makes void what is known of a document. -/
def Event.voids (d : DocumentUri) : Event → Bool
  | .changed e _ => d = e
  | .watched changes => changes.any fun (e, change) => d = e && change != .created
  | .configurationChanged | .reconfigure _ => true
  | .opened _ _ | .closed _ => false

/-- An orchestrator after an event. -/
def after (o : Orchestrator) : Event → Orchestrator
  | .opened d version => o.opened d version
  | .changed d version => o.changed d version
  | .closed d => o.closed d
  | .watched changes => o.watched changes
  | .configurationChanged => o.configurationChanged.1
  | .reconfigure setup => (o.reconfigure setup).1

/-- What an event does to the cache. -/
def Event.operations : Event → List Cache.Operation
  | .changed d _ => [.void d]
  | .watched changes => changes.filterMap fun (d, change) =>
      if change = .created then none else some (.void d)
  | .configurationChanged | .reconfigure _ => [.voidAll]
  | .opened _ _ | .closed _ => []

/-- To the cache an event is a list of operations. -/
theorem cache_after (o : Orchestrator) (ev : Event) :
    (o.after ev).cache = ev.operations.foldl Cache.apply o.cache := by
  cases ev with
  | watched changes =>
      simp only [after, watched, Event.operations, List.foldl_filterMap]
      congr 1
      funext cache ⟨d, change⟩
      cases change <;> rfl
  | opened _ _ | changed _ _ | closed _ | configurationChanged | reconfigure _ => rfl

/-- Those operations make void the documents that the event makes void. -/
theorem Event.any_voids_operations (ev : Event) (d : DocumentUri) :
    ev.operations.any (·.voids d) = ev.voids d := by
  cases ev with
  | watched changes =>
      simp only [operations, voids, List.any_filterMap]
      congr 1
      funext ⟨e, change⟩
      cases change <;> simp [Cache.Operation.voids]
  | changed e _ => simp [operations, voids, Cache.Operation.voids]
  | opened _ _ | closed _ | configurationChanged | reconfigure _ => rfl

/-- No event publishes a pass. -/
theorem Event.epoch?_eq_none {ev : Event} {op : Cache.Operation} (h : op ∈ ev.operations) :
    op.epoch? = none := by
  cases ev with
  | watched changes =>
      obtain ⟨⟨e, change⟩, -, hop⟩ := List.mem_filterMap.mp h
      cases change <;> simp_all <;> subst hop <;> rfl
  | opened _ _ | closed _ => simp [operations] at h
  | changed _ _ | configurationChanged | reconfigure _ =>
      simp only [operations, List.mem_singleton] at h
      subst h
      rfl

/-- An event only takes entries away: those of the documents that it makes void. -/
theorem stored?_after (o : Orchestrator) (ev : Event) (d : DocumentUri) :
    (o.after ev).cache.stored? d = if ev.voids d then none else o.cache.stored? d := by
  rw [cache_after, Cache.stored?_foldl_of_no_publication fun _ => Event.epoch?_eq_none,
    Event.any_voids_operations]

/-- What an event makes void counts as void since each pass that began before it. -/
theorem voidedSince_after {o : Orchestrator} {E : Epoch} (hE : E.number ≤ o.cache.epoch)
    (ev : Event) (d : DocumentUri) :
    (o.after ev).cache.voidedSince d E = (o.cache.voidedSince d E || ev.voids d) := by
  rw [cache_after, Cache.voidedSince_foldl hE, Event.any_voids_operations]
  intro op hop e he
  rw [Event.epoch?_eq_none hop] at he
  cases he

/-- No event turns the clock of the cache back. -/
theorem epoch_le_epoch_after (o : Orchestrator) (ev : Event) :
    o.cache.epoch ≤ (o.after ev).cache.epoch := by
  rw [cache_after]
  exact Cache.epoch_le_epoch_foldl _ _

/-- The number of publications is the same after an event. -/
theorem publications_after (o : Orchestrator) (ev : Event) :
    (o.after ev).cache.publications = o.cache.publications := by
  have hnone : ev.operations.countP (·.epoch?.isSome) = 0 := by
    rw [List.countP_eq_zero]
    exact fun op hop => by simp [Event.epoch?_eq_none hop]
  rw [cache_after, Cache.publications_foldl, hnone, Nat.add_zero]

/-! ### Steps of a query -/

/-- A step of a query. Besides what it does in one go, a query enters the gate when it is open,
gets back whatever the engine has made of the files, and goes on when what it waits for dies. -/
inductive Move (o : Orchestrator) (q : Query) (isOpen : Prop) :
    Stage → Orchestrator → Stage → Prop
  | step {stage next : Stage} {o' : Orchestrator} {log : Log} (t : FileTree)
      (h : o.step t q stage = some (o', next, log)) : Move o q isOpen stage o' next
  | enter (h : isOpen) : Move o q isOpen .waiting (o.enter q).1 (o.enter q).2
  | check {start : PassStart} {files : List FilePath}
      {fingerprints : List (FilePath × Fingerprint)} (result : CheckResult) :
      Move o q isOpen (.check start files fingerprints) o
        (checked start files fingerprints result).1
  | lose {stage next : Stage} (h : stage.lost? = some next) : Move o q isOpen stage o next

/-- Whether a query that is answered at a stage is given an answer. -/
def Concludes (o : Orchestrator) (q : Query) : Stage → Answer → Prop
  | .looked _ (some entry), answer => answer = o.documentAnswer entry.findings
  | .passed (some pass), answer => (o.concludePass q (some pass)).2.1 = .answered answer
  | .looked _ none, answer | .passed none, answer => answer = q.noFindings
  | _, _ => False

/-- What a step of a query does: to the stage of the query, and to what all queries share. -/
inductive Effect (o : Orchestrator) (q : Query) (isOpen : Prop) :
    Stage → Orchestrator → Stage → Prop
  /-- A lookup takes the entry that is there. -/
  | taken {d : DocumentUri} {inside : Bool} {entry : CacheEntry} (hq : q = .document d)
      (hstored : o.cache.stored? d = some entry) :
      Effect o q isOpen (.lookup inside) o (.read inside entry)
  /-- A lookup reads the file of its entry. -/
  | read {inside : Bool} {entry : CacheEntry} {live : Option Fingerprint} :
      Effect o q isOpen (.read inside entry) o (.confirm inside entry live)
  /-- A lookup sees that what is there now is of the same publication as its entry. -/
  | confirmed {d : DocumentUri} {inside : Bool} {entry current : CacheEntry}
      {live : Option Fingerprint} (hq : q = .document d)
      (hstored : o.cache.stored? d = some current)
      (hsame : current.publication = entry.publication) :
      Effect o q isOpen (.confirm inside entry live) o (.looked inside (some entry))
  /-- A lookup finds nothing. -/
  | missed {stage : Stage} {inside : Bool} (hinside : stage.isInside = inside) :
      Effect o q isOpen stage o (.looked inside none)
  | queued {stage : Stage} : Effect o q isOpen stage o .waiting
  | entered (h : isOpen) : Effect o q isOpen .waiting o (.lookup true)
  | began {stage : Stage} (h : stage.isInside = true ∨ isOpen) :
      Effect o q isOpen stage { o with passes := o.passes + 1 }
        (.discover ⟨o.setup, o.cache.beginPass, o.passes + 1⟩)
  /-- A pass goes on. -/
  | passing {stage next : Stage} {start : PassStart} (hstage : stage.start? = some start)
      (hnext : next.start? = some start) (hbegun : next ≠ .discover start) :
      Effect o q isOpen stage o next
  /-- A pass is lost. -/
  | lost {stage : Stage} (hinside : stage.isInside = true) :
      Effect o q isOpen stage o (.passed none)
  | published {start : PassStart} {pass : Pass} (t : FileTree) :
      Effect o q isOpen (.publish start pass)
        { o with cache := o.cache.publish t start.epoch pass } (.passed (some pass))
  | answered {stage : Stage} {o' : Orchestrator} {answer : Answer} (hcache : o'.cache = o.cache)
      (hsetup : o'.setup = o.setup) (hanswer : o.Concludes q stage answer) :
      Effect o q isOpen stage o' (.answered answer)

/-- What a step does that a query makes in one go. -/
theorem effect_of_step {o o' : Orchestrator} {q : Query} {t : FileTree} {stage next : Stage}
    {log : Log} {isOpen : Prop} (h : o.step t q stage = some (o', next, log)) :
    Effect o q isOpen stage o' next := by
  cases stage with
  | lookup inside =>
      cases q with
      | workspace => cases h
      | document d =>
          simp only [step] at h
          split at h <;> cases h
          next entry hstored => exact .taken rfl hstored
          next => exact .missed rfl
  | read inside entry =>
      cases q <;> cases h
      exact .read
  | confirm inside entry live =>
      cases q <;> cases h
      next d =>
        unfold Cache.confirm
        split
        next hsame =>
          rw [Bool.and_eq_true, decide_eq_true_eq, decide_eq_true_eq,
            Option.map_eq_some_iff] at hsame
          obtain ⟨-, current, hstored, hpublication⟩ := hsame
          exact .confirmed rfl hstored hpublication
        next => exact .missed rfl
  | looked inside found =>
      cases found with
      | some entry =>
          cases q <;> cases h <;> exact .answered rfl rfl rfl
      | none =>
          cases q with
          | workspace => cases h
          | document d =>
              simp only [step] at h
              split at h
              next hinside =>
                cases h
                exact .began (.inl hinside)
              next =>
                split at h <;> cases h
                · exact .queued
                · exact .answered rfl rfl rfl
  | discover start =>
      cases h
      exact .passing rfl rfl (by simp)
  | snapshot start files =>
      simp only [step] at h
      split at h <;> cases h <;> exact .passing rfl rfl (by simp)
  | publish start pass =>
      cases h
      exact .published t
  | passed found =>
      cases found with
      | none => cases q <;> cases h <;> exact .answered rfl rfl rfl
      | some pass => cases q <;> cases h <;> exact .answered rfl rfl rfl
  | waiting | check _ _ _ | answered _ => cases h

/-- Every such step brings a query closer to its answer. -/
theorem rank_lt_of_step {o o' : Orchestrator} {q : Query} {t : FileTree} {stage next : Stage}
    {log : Log} (h : o.step t q stage = some (o', next, log)) : next.rank < stage.rank := by
  cases stage with
  | lookup inside =>
      cases q with
      | workspace => cases h
      | document d =>
          simp only [step] at h
          split at h <;> cases h <;> cases inside <;> simp [Stage.rank]
  | read inside _ | confirm inside _ _ =>
      cases q <;> cases h
      cases inside <;> simp [Stage.rank]
  | looked inside found =>
      cases found with
      | some entry => cases q <;> cases h <;> cases inside <;> simp [Stage.rank]
      | none =>
          cases q with
          | workspace => cases h
          | document d =>
              cases inside with
              | true =>
                  cases h
                  simp [Stage.rank]
              | false =>
                  simp only [step, Bool.false_eq_true, if_false] at h
                  split at h <;> cases h <;> simp [Stage.rank]
  | discover start =>
      cases h
      simp [Stage.rank]
  | snapshot start files =>
      simp only [step] at h
      split at h <;> cases h <;> simp [Stage.rank]
  | publish start pass =>
      cases h
      simp [Stage.rank]
  | passed found =>
      cases q <;> cases found <;> cases h <;> simp [Stage.rank]
  | waiting | check _ _ _ | answered _ => cases h

/-- **What a query can do.** -/
theorem Move.effect {o o' : Orchestrator} {q : Query} {isOpen : Prop} {stage next : Stage}
    (h : Move o q isOpen stage o' next) : Effect o q isOpen stage o' next := by
  cases h with
  | step t h => exact effect_of_step h
  | enter h =>
      cases q with
      | document d => exact .entered h
      | workspace => exact .began (.inr h)
  | check result =>
      obtain ⟨findings, ending⟩ := result
      cases ending with
      | lost => exact .lost rfl
      | done _ | failed _ | panicked _ => exact .passing rfl rfl (by simp [checked, Pass.ofResult?])
  | lose h => cases stage <;> cases h <;> first | exact .missed rfl | exact .lost rfl

/-- Every step brings a query nearer to its answer. -/
theorem Move.rank_lt {o o' : Orchestrator} {q : Query} {isOpen : Prop} {stage next : Stage}
    (h : Move o q isOpen stage o' next) : next.rank < stage.rank := by
  cases h with
  | step t h => exact rank_lt_of_step h
  | enter h =>
      cases q with
      | document d => exact (by decide : (9 : ℕ) < 10)
      | workspace => exact (by decide : (5 : ℕ) < 10)
  | check result =>
      obtain ⟨findings, ending⟩ := result
      cases ending <;> simp [checked, Pass.ofResult?, Stage.rank]
  | lose h =>
      cases stage with
      | lookup inside | read inside _ | confirm inside _ _ =>
          cases h
          cases inside <;> simp [Stage.rank]
      | discover _ | snapshot _ _ | check _ _ _ | publish _ _ =>
          cases h
          simp [Stage.rank]
      | looked _ _ | waiting | passed _ | answered _ => cases h

/-- A query is answered by a step of its own. -/
theorem Move.exists_step {o o' : Orchestrator} {q : Query} {isOpen : Prop} {stage : Stage}
    {answer : Answer} (h : Move o q isOpen stage o' (.answered answer)) :
    ∃ t log, o.step t q stage = some (o', .answered answer, log) := by
  generalize hnext : Stage.answered answer = next at h
  cases h with
  | step t h => exact ⟨t, _, h⟩
  | enter _ => cases q <;> cases hnext
  | check result =>
      obtain ⟨findings, ending⟩ := result
      cases ending <;> cases hnext
  | lose h =>
      subst hnext
      cases stage <;> cases h

/-- A query comes inside the gate only when the gate is open. -/
theorem Effect.isInside {o o' : Orchestrator} {q : Query} {isOpen : Prop} {stage next : Stage}
    (h : Effect o q isOpen stage o' next) (hnext : next.isInside = true) :
    stage.isInside = true ∨ isOpen := by
  cases h with
  | taken _ _ | read | confirmed _ _ _ => exact .inl hnext
  | missed hinside => exact .inl (hinside.trans hnext)
  | queued | answered _ _ _ => cases hnext
  | entered h => exact .inr h
  | began h => exact h
  | passing hstage _ _ => exact .inl (Stage.isInside_of_start? hstage)
  | lost hinside => exact .inl hinside
  | published _ => exact .inl rfl

/-- The pass of a query goes on, or begins now, with the setup and the epoch of now. -/
theorem Effect.start? {o o' : Orchestrator} {q : Query} {isOpen : Prop} {stage next : Stage}
    {start : PassStart} (h : Effect o q isOpen stage o' next) (hnext : next.start? = some start) :
    o'.cache = o.cache ∧ ((stage.start? = some start ∧ next ≠ .discover start) ∨
      next = .discover start ∧ start.setup = o.setup ∧ start.epoch = o.cache.beginPass) := by
  cases h with
  | taken _ _ | read | confirmed _ _ _ | missed _ | queued | entered _ | lost _ | published _
  | answered _ _ _ => cases hnext
  | began _ =>
      cases hnext
      exact ⟨rfl, .inr ⟨rfl, rfl, rfl⟩⟩
  | passing hstage hnext' hbegun =>
      cases hnext.symm.trans hnext'
      exact ⟨rfl, .inl ⟨hstage, hbegun⟩⟩

/-- A lookup takes an entry that is there, and keeps it. -/
theorem Effect.pending? {o o' : Orchestrator} {q : Query} {isOpen : Prop} {stage next : Stage}
    {entry : CacheEntry} (h : Effect o q isOpen stage o' next)
    (hnext : next.pending? = some entry) :
    o' = o ∧ (stage.pending? = some entry ∨
      ∃ d, q = .document d ∧ o.cache.stored? d = some entry) := by
  cases h with
  | taken hq hstored =>
      cases hnext
      exact ⟨rfl, .inr ⟨_, hq, hstored⟩⟩
  | read => exact ⟨rfl, .inl hnext⟩
  | passing _ hnext' _ =>
      cases next with
      | read _ _ | confirm _ _ _ => cases hnext'
      | lookup _ | looked _ _ | waiting | discover _ | snapshot _ _ | check _ _ _ | publish _ _
      | passed _ | answered _ => cases hnext
  | confirmed _ _ _ | missed _ | queued | entered _ | began _ | lost _ | published _
  | answered _ _ _ => cases hnext

/-- A lookup finds what it has taken, if there is something of the same publication. -/
theorem Effect.found {o o' : Orchestrator} {q : Query} {isOpen : Prop} {stage : Stage}
    {inside : Bool} {entry : CacheEntry}
    (h : Effect o q isOpen stage o' (.looked inside (some entry))) :
    stage.pending? = some entry ∧ ∃ d current, q = .document d ∧
      o.cache.stored? d = some current ∧ current.publication = entry.publication := by
  cases h with
  | confirmed hq hstored hsame => exact ⟨rfl, _, _, hq, hstored, hsame⟩
  | passing _ hnext _ => cases hnext

/-- A query that is answered is given an answer at the stage where it was. -/
theorem Effect.concludes {o o' : Orchestrator} {q : Query} {isOpen : Prop} {stage : Stage}
    {answer : Answer} (h : Effect o q isOpen stage o' (.answered answer)) :
    o.Concludes q stage answer := by
  cases h with
  | answered _ _ hanswer => exact hanswer
  | passing _ hnext _ => cases hnext

/-- Only the publication of a pass changes the cache. -/
theorem Effect.cache {o o' : Orchestrator} {q : Query} {isOpen : Prop} {stage next : Stage}
    (h : Effect o q isOpen stage o' next) :
    (o'.cache = o.cache ∧ ∀ pass, next ≠ .passed (some pass)) ∨
      ∃ start pass t, stage = .publish start pass ∧ next = .passed (some pass) ∧
        o'.cache = o.cache.publish t start.epoch pass := by
  cases h with
  | published t => exact .inr ⟨_, _, t, rfl, rfl, rfl⟩
  | passing hstage hnext _ =>
      refine .inl ⟨rfl, ?_⟩
      rintro pass rfl
      cases hnext
  | answered hcache _ _ => exact .inl ⟨hcache, by simp⟩
  | taken _ _ | read | confirmed _ _ _ | missed _ | queued | entered _ | began _ | lost _ =>
      exact .inl ⟨rfl, by simp⟩

/-- Queries leave the setup alone. -/
theorem Effect.setup {o o' : Orchestrator} {q : Query} {isOpen : Prop} {stage next : Stage}
    (h : Effect o q isOpen stage o' next) : o'.setup = o.setup := by
  cases h with
  | answered _ hsetup _ => exact hsetup
  | taken _ _ | read | confirmed _ _ _ | missed _ | queued | entered _ | began _ | lost _
  | passing _ _ _ | published _ => rfl

/-! ### Histories -/

/-- A query on its way. -/
structure Flight where
  query : Query
  stage : Stage

/-- An orchestrator with the queries that were issued so far, each known by its place. -/
structure Service where
  orchestrator : Orchestrator
  flights : List Flight

/-- Whether no query is inside the gate. -/
def Service.IsOpen (s : Service) : Prop :=
  ∀ f ∈ s.flights, f.stage.isInside = false

/-- What can happen. -/
inductive Happening where
  /-- A query is issued. -/
  | issued (i : ℕ) (q : Query)
  /-- A query makes a step from one stage to another. -/
  | moved (i : ℕ) (stage next : Stage)
  | event (ev : Event)

/-- Whether a pass is published. -/
def Happening.publishes : Happening → Bool
  | .moved _ (.publish _ _) (.passed (some _)) => true
  | _ => false

/-- One thing happens. -/
inductive Step (s : Service) : Happening → Service → Prop
  | issue (q : Query) :
      Step s (.issued s.flights.length q) { s with flights := s.flights ++ [⟨q, q.start⟩] }
  | move {i : ℕ} {q : Query} {stage next : Stage} {o : Orchestrator}
      (hflight : s.flights[i]? = some ⟨q, stage⟩)
      (hmove : Move s.orchestrator q s.IsOpen stage o next) :
      Step s (.moved i stage next) ⟨o, s.flights.set i ⟨q, next⟩⟩
  | event (ev : Event) :
      Step s (.event ev) { s with orchestrator := s.orchestrator.after ev }

/-- What happens from some time on, the oldest thing first, and where it leads to. -/
inductive Steps (s : Service) : List Happening → Service → Prop
  | refl : Steps s [] s
  | next {h : List Happening} {x : Happening} {s' s'' : Service} (hsteps : Steps s h s')
      (hstep : Step s' x s'') : Steps s (h ++ [x]) s''

/-- A history, the oldest thing first, and where it leads to. It begins with an empty cache. -/
inductive Run (o : Orchestrator) : List Happening → Service → Prop
  | start (hnew : o.cache = {}) : Run o [] ⟨o, []⟩
  | next {h : List Happening} {x : Happening} {s s' : Service} (hrun : Run o h s)
      (hstep : Step s x s') : Run o (h ++ [x]) s'

/-- The elements of a list with one more at its end. -/
theorem getElem?_concat_eq_some_iff {α : Type} {l : List α} {x y : α} {k : ℕ} :
    (l ++ [x])[k]? = some y ↔ l[k]? = some y ∨ k = l.length ∧ x = y := by
  rcases lt_trichotomy k l.length with hk | rfl | hk
  · simp [List.getElem?_append_left hk, hk.ne]
  · simp
  · simp [List.getElem?_append_right hk.le, List.getElem?_eq_none hk.le, hk.ne',
      Nat.sub_ne_zero_of_lt hk]

/-- An element keeps its place when one more is added at the end. -/
theorem getElem?_concat_of_some {α : Type} {l : List α} {y : α} {k : ℕ} (h : l[k]? = some y)
    (x : α) : (l ++ [x])[k]? = some y :=
  getElem?_concat_eq_some_iff.mpr (.inl h)

theorem lt_length_of_getElem? {α : Type} {l : List α} {y : α} {k : ℕ} (h : l[k]? = some y) :
    k < l.length :=
  (List.getElem?_eq_some_iff.mp h).1

theorem getElem?_set_eq_some_iff {α : Type} {l : List α} {x y : α} {i k : ℕ} (hi : i < l.length) :
    (l.set i x)[k]? = some y ↔ k = i ∧ x = y ∨ k ≠ i ∧ l[k]? = some y := by
  rw [List.getElem?_set]
  by_cases h : i = k
  · subst h
    simp [hi]
  · simp [h, Ne.symm h]

section Step

variable {s s' : Service} {x : Happening}

/-- Where a query is, it was before, or it starts there now, or it moves there now. -/
theorem Step.flight_cases (hstep : Step s x s') {i : ℕ} {q : Query} {next : Stage}
    (hflight : s'.flights[i]? = some ⟨q, next⟩) :
    (s.flights[i]? = some ⟨q, next⟩ ∧ ∀ stage next, x ≠ .moved i stage next) ∨
      (i = s.flights.length ∧ x = .issued i q ∧ next = q.start) ∨
      ∃ stage, s.flights[i]? = some ⟨q, stage⟩ ∧ x = .moved i stage next ∧
        Effect s.orchestrator q s.IsOpen stage s'.orchestrator next := by
  cases hstep with
  | issue q' =>
      rcases getElem?_concat_eq_some_iff.mp hflight with hold | ⟨rfl, hnew⟩
      · exact .inl ⟨hold, by simp⟩
      · cases hnew
        exact .inr (.inl ⟨rfl, rfl, rfl⟩)
  | event ev => exact .inl ⟨hflight, by simp⟩
  | @move k q' stage next' o hmover hmove =>
      rcases (getElem?_set_eq_some_iff (lt_length_of_getElem? hmover)).mp hflight with
        ⟨rfl, hmoved⟩ | ⟨hik, hold⟩
      · cases hmoved
        exact .inr (.inr ⟨stage, hmover, rfl, hmove.effect⟩)
      · exact .inl ⟨hold, by simp [Ne.symm hik]⟩

/-- The cache is left alone, or changed by an event, or a pass is published. -/
theorem Step.cache_cases (hstep : Step s x s') :
    (s'.orchestrator.cache = s.orchestrator.cache ∧ x.publishes = false ∧ ∀ ev, x ≠ .event ev) ∨
      (∃ ev, x = .event ev ∧ s'.orchestrator = s.orchestrator.after ev) ∨
      ∃ i q start pass t, s.flights[i]? = some ⟨q, .publish start pass⟩ ∧
        x = .moved i (.publish start pass) (.passed (some pass)) ∧
        s'.orchestrator.cache = s.orchestrator.cache.publish t start.epoch pass := by
  cases hstep with
  | issue q => exact .inl ⟨rfl, rfl, by simp⟩
  | event ev => exact .inr (.inl ⟨ev, rfl, rfl⟩)
  | @move i q stage next o hmover hmove =>
      rcases hmove.effect.cache with ⟨hcache, hnext⟩ | ⟨start, pass, t, rfl, rfl, hcache⟩
      · refine .inl ⟨hcache, ?_, by simp⟩
        unfold Happening.publishes
        split
        next hmoved =>
          cases hmoved
          exact absurd rfl (hnext _)
        next => rfl
      · exact .inr (.inr ⟨i, q, start, pass, t, hmover, rfl, hcache⟩)

/-- Whether no two queries are inside the gate. -/
def Service.IsExclusive (s : Service) : Prop :=
  ∀ {i j : ℕ} {p q : Query} {stage stage' : Stage}, s.flights[i]? = some ⟨p, stage⟩ →
    s.flights[j]? = some ⟨q, stage'⟩ → stage.isInside = true → stage'.isInside = true → i = j

/-- Without queries none is inside the gate. -/
theorem isExclusive_of_no_flights (o : Orchestrator) : (⟨o, []⟩ : Service).IsExclusive :=
  fun {_ _ _ _ _ _} hi => by simp at hi

/-- Nothing that happens lets a second query inside. -/
theorem Step.isExclusive (hstep : Step s x s') (hs : s.IsExclusive) : s'.IsExclusive := by
  intro i j p q stage stage' hi hj hinside hinside'
  -- One is inside already when the other moves: then so is the other, or the gate is open.
  have hmoves {i j : ℕ} {p q : Query} {stage stage' next : Stage}
      (hi : s.flights[i]? = some ⟨p, stage⟩) (hinside : stage.isInside = true)
      (hj : s.flights[j]? = some ⟨q, stage'⟩) (hnext : next.isInside = true)
      (heffect : Effect s.orchestrator q s.IsOpen stage' s'.orchestrator next) : i = j := by
    rcases heffect.isInside hnext with hinside' | hopen
    · exact hs hi hj hinside hinside'
    · exact absurd hinside (by simp [hopen _ (List.mem_of_getElem? hi)])
  rcases hstep.flight_cases hi with ⟨hi, -⟩ | ⟨-, -, rfl⟩ | ⟨_, hi, hx, heffect⟩
  · rcases hstep.flight_cases hj with ⟨hj, -⟩ | ⟨-, -, rfl⟩ | ⟨_, hj, -, heffect⟩
    · exact hs hi hj hinside hinside'
    · exact absurd hinside' (by simp [Query.isInside_start])
    · exact hmoves hi hinside hj hinside' heffect
  · exact absurd hinside (by simp [Query.isInside_start])
  · rcases hstep.flight_cases hj with ⟨hj, -⟩ | ⟨-, -, rfl⟩ | ⟨_, -, hx', -⟩
    · exact (hmoves hj hinside' hi hinside heffect).symm
    · exact absurd hinside' (by simp [Query.isInside_start])
    · exact (Happening.moved.inj (hx.symm.trans hx')).1

/-- As long as it started so, no two queries are inside the gate. -/
theorem Steps.isExclusive {h : List Happening} (hsteps : Steps s h s') (hs : s.IsExclusive) :
    s'.IsExclusive := by
  induction hsteps with
  | refl => exact hs
  | next _ hstep ih => exact hstep.isExclusive ih

end Step

section Run

variable {o : Orchestrator} {h : List Happening} {s : Service}

/-- A run is made of steps. -/
theorem Run.steps (hrun : Run o h s) : Steps ⟨o, []⟩ h s := by
  induction hrun with
  | start _ => exact .refl
  | next _ hstep ih => exact ih.next hstep

/-- Whatever happens, the cache is one that operations on an empty cache lead to. -/
theorem Run.exists_cache_eq_run (hrun : Run o h s) :
    ∃ ops, s.orchestrator.cache = Cache.run ops := by
  induction hrun with
  | start hnew => exact ⟨[], hnew⟩
  | @next h x s s' hrun hstep ih =>
      obtain ⟨ops, hops⟩ := ih
      rcases hstep.cache_cases with
        ⟨hcache, -, -⟩ | ⟨ev, -, hafter⟩ | ⟨_, _, start, pass, t, -, -, hcache⟩
      · exact ⟨ops, hcache.trans hops⟩
      · exact ⟨ops ++ ev.operations, by rw [hafter, cache_after, hops, Cache.run_append]⟩
      · refine ⟨ops ++ [.publish start.epoch t pass], ?_⟩
        rw [hcache, hops, Cache.run_append]
        rfl

/-- A query that makes steps has been issued. -/
theorem Run.lt_of_moved (hrun : Run o h s) {i k : ℕ} {stage next : Stage}
    (hmoved : h[k]? = some (.moved i stage next)) : i < s.flights.length := by
  induction hrun with
  | start hnew => simp at hmoved
  | @next h x s s' hrun hstep ih =>
      have hle : s.flights.length ≤ s'.flights.length := by cases hstep <;> simp
      rcases getElem?_concat_eq_some_iff.mp hmoved with hold | ⟨-, rfl⟩
      · exact lt_of_lt_of_le (ih hold) hle
      · cases hstep with
        | move hflight hmove => exact lt_of_lt_of_le (lt_length_of_getElem? hflight) hle

/-- A query that was issued is on its way, and stays the one that it is. -/
theorem Run.query_of_issued (hrun : Run o h s) {i a : ℕ} {q : Query}
    (hissued : h[a]? = some (.issued i q)) : ∃ stage, s.flights[i]? = some ⟨q, stage⟩ := by
  induction hrun with
  | start hnew => simp at hissued
  | @next h x s s' hrun hstep ih =>
      rcases getElem?_concat_eq_some_iff.mp hissued with hold | ⟨-, rfl⟩
      · obtain ⟨stage, hstage⟩ := ih hold
        cases hstep with
        | issue q' => exact ⟨stage, getElem?_concat_of_some hstage _⟩
        | event ev => exact ⟨stage, hstage⟩
        | @move j q' stage' next' o' hflight hmove =>
            by_cases hji : i = j
            · subst hji
              obtain ⟨rfl, -⟩ := Flight.mk.inj (Option.some.inj (hstage.symm.trans hflight))
              exact ⟨next', List.getElem?_set_self (lt_length_of_getElem? hflight)⟩
            · exact ⟨stage, (List.getElem?_set_ne (Ne.symm hji)).trans hstage⟩
      · cases hstep with
        | issue q => exact ⟨q.start, by simp⟩

/-- A query makes steps only after it was issued. -/
theorem Run.issued_before_moved (hrun : Run o h s) {i a k : ℕ} {q : Query} {stage next : Stage}
    (hissued : h[a]? = some (.issued i q)) (hmoved : h[k]? = some (.moved i stage next)) :
    a < k := by
  induction hrun with
  | start hnew => simp at hissued
  | @next h x s s' hrun hstep ih =>
      rcases getElem?_concat_eq_some_iff.mp hissued with hissued' | ⟨rfl, rfl⟩
      · rcases getElem?_concat_eq_some_iff.mp hmoved with hmoved' | ⟨rfl, -⟩
        · exact ih hissued' hmoved'
        · exact lt_length_of_getElem? hissued'
      · -- The number of a query that is issued now is that of no query before.
        rcases getElem?_concat_eq_some_iff.mp hmoved with hmoved' | ⟨-, hx⟩
        · cases hstep with
          | issue q => exact absurd (hrun.lt_of_moved hmoved') (lt_irrefl _)
        · cases hx

/-- **The gate.** No two queries are inside. -/
theorem Run.exclusive (hrun : Run o h s) {i j : ℕ} {p q : Query} {stage stage' : Stage}
    (hi : s.flights[i]? = some ⟨p, stage⟩) (hj : s.flights[j]? = some ⟨q, stage'⟩)
    (hinside : stage.isInside = true) (hinside' : stage'.isInside = true) : i = j :=
  hrun.steps.isExclusive (isExclusive_of_no_flights o) hi hj hinside hinside'

end Run

/-! ### A document below a root

What follows is enough for examples of histories: a setup with one root, a file below it with its
document, a tree in which there is nothing else, and a pass over it. -/

/-- A setup with one root. -/
def sampleSetup : Setup :=
  { (default : Setup) with sources := { roots := [⟨[FilePath.slash, 0x52]⟩], extensions := ["b"] } }

/-- A file below the root. -/
def samplePath : FilePath :=
  ⟨[FilePath.slash, 0x52, FilePath.slash, 0x41, FilePath.dot, 0x62]⟩

/-- The document of that file. -/
def sampleDocument : DocumentUri := (DocumentUri.ofPath? samplePath).get (by decide)

/-- A tree with that file, which is empty. -/
def sampleTree : FileTree :=
  ⟨.directory [([0x52], .directory [([0x41, FilePath.dot, 0x62], .file [])])]⟩

/-- A pass finds the one file. -/
theorem discover_sampleTree : sampleSetup.sources.discover sampleTree = [samplePath] := by
  have hwalk : sampleTree.walkFrom ⟨[FilePath.slash, 0x52]⟩ = [.file samplePath] := by cbv
  rw [SourceSet.discover_of_walkFrom rfl (by cbv) hwalk]
  decide

/-- The first pass with that setup. -/
def firstStart : PassStart := ⟨sampleSetup, ⟨0⟩, 1⟩

/-- That pass when it is done: it has found one issue. -/
def firstPass : Pass where
  files := [samplePath]
  fingerprints := Pass.snapshot sampleTree [samplePath]
  findings := [{ path := samplePath, severity := .error, message := "" }]

end Orchestrator

end PullDiagnostics
