import Mathlib.Data.List.Basic
import PullDiagnostics.Proofs.Protocol.Frame
import PullDiagnostics.Proofs.Server.Untouched
import PullDiagnostics.Server.Site

/-!
# Jobs come to their end

A server that takes messages while engines are at work keeps what it has begun as jobs. Two things
hold of the jobs of a connection at all times: at most one of them has a query inside the gate, and
while none has, none waits for the gate. So there is always a job that goes on by itself, unless
there are no jobs at all, and every time that passes ends one. What comes of it are jobs that
waited, which are no more than before, and messages that were left, each of which takes bytes away.

An engine that takes no time leaves no jobs: a query is answered as if there were none.

## Main results

* `Job.AreOrderly.eq_nil_of_next?`: while there are jobs, one of them goes on.
* `Environment.Apart.take`: a message adds one job at most and leaves the jobs in order.
* `Environment.Apart.elapse`: a job that ends leaves less to be done.
* `Environment.Apart.turns`: the gate is kept whatever comes, and whenever time passes.
* `Environment.Apart.settle`: in the end there are no jobs, and no message that can be taken.
* `Environment.IsInstant.ask`: with engines that take no time a query is answered at once.
* `Site.idle_of_read`: what a client has asked for is done before it sends more.
-/

namespace PullDiagnostics

open Protocol

/-! ### Lists of jobs -/

namespace Job

/-- Whether a job waits for the gate. -/
def isWaiting (j : Job) : Bool :=
  match j.task with
  | .waiting _ => true
  | .checking _ _ | .abandoned _ | .greeting _ _ _ => false

/-- Whether one job at most has a query inside the gate, and none waits while none has. -/
structure AreOrderly (jobs : List Job) : Prop where
  exclusive : jobs.countP (·.isInside) ≤ 1
  none_waits : jobs.any (·.isInside) = false → ∀ j ∈ jobs, j.isWaiting = false

/-- What waits for the gate is a query. -/
theorem task_of_isWaiting {j : Job} (h : j.isWaiting = true) : ∃ q, j.task = .waiting q := by
  obtain ⟨id, task⟩ := j
  cases task with
  | waiting q => exact ⟨q, rfl⟩
  | checking q check | abandoned check | greeting engine version due => cases h

/-- A job that waits for nothing but its engine goes on at some time. -/
theorem due?_ne_none {j : Job} (h : j.isWaiting = false) : j.due? ≠ none := by
  obtain ⟨id, task⟩ := j
  cases task with
  | waiting q => cases h
  | checking q check | abandoned check | greeting engine version due => exact Option.some_ne_none _

/-- A query inside the gate has a check that goes on at some time. -/
theorem isWaiting_of_isInside {j : Job} (h : j.isInside = true) : j.isWaiting = false := by
  obtain ⟨id, task⟩ := j
  cases task with
  | checking q check => rfl
  | waiting q | abandoned check | greeting engine version due => cases h

/-- What is left of a job that is taken back is outside of the gate. -/
theorem isInside_of_abandoned? {j left : Job} (h : j.abandoned? = some left) :
    left.isInside = false ∧ left.isWaiting = false := by
  obtain ⟨id, task⟩ := j
  cases task with
  | waiting q | greeting engine version due => cases h
  | checking q check | abandoned check =>
      obtain rfl := Option.some.inj h
      exact ⟨rfl, rfl⟩

/-- The job that goes on first is one of the jobs, and goes on at that time. -/
theorem mem_of_next? {jobs : List Job} {due : ℕ} {j : Job} (h : next? jobs = some (due, j)) :
    j ∈ jobs ∧ j.due? = some due := by
  have hmem := List.mem_of_head? h
  rw [List.mem_mergeSort, List.mem_filterMap] at hmem
  obtain ⟨i, hi, hdue⟩ := hmem
  obtain ⟨time, htime, heq⟩ := Option.map_eq_some_iff.mp hdue
  obtain ⟨rfl, rfl⟩ := Prod.mk.inj heq
  exact ⟨hi, htime⟩

/-- If none goes on first, no job goes on at any time. -/
theorem due?_of_next?_eq_none {jobs : List Job} (h : next? jobs = none) :
    ∀ j ∈ jobs, j.due? = none := by
  intro j hj
  cases hdue : j.due? with
  | none => rfl
  | some due =>
      have hmem : (due, j) ∈ (jobs.filterMap fun j => j.due?.map (·, j)).mergeSort
          fun a b => a.1 ≤ b.1 :=
        List.mem_mergeSort.mpr (List.mem_filterMap.mpr ⟨j, hj, by rw [hdue]; rfl⟩)
      rw [List.head?_eq_none_iff.mp h] at hmem
      cases hmem

/-- The job that goes on first is the only one that is taken out. -/
theorem length_without {jobs : List Job} {due : ℕ} {j : Job} (hj : j ∈ jobs)
    (hdue : j.due? = some due) : (without jobs due).length = jobs.length - 1 :=
  List.length_eraseP_of_mem hj (by simpa using hdue)

namespace AreOrderly

variable {jobs : List Job} {j : Job}

theorem nil : AreOrderly [] := ⟨Nat.zero_le _, by simp⟩

/-- **Some job goes on** as long as there are jobs. -/
theorem eq_nil_of_next? (h : AreOrderly jobs) (hnext : next? jobs = none) : jobs = [] := by
  have hdue := due?_of_next?_eq_none hnext
  have hopen : jobs.any (·.isInside) = false := by
    refine Bool.eq_false_iff.mpr fun htaken => ?_
    obtain ⟨j, hj, hinside⟩ := List.any_eq_true.mp htaken
    exact due?_ne_none (isWaiting_of_isInside hinside) (hdue j hj)
  refine List.eq_nil_iff_forall_not_mem.mpr fun j hj => ?_
  exact due?_ne_none (h.none_waits hopen j hj) (hdue j hj)

/-- A query may enter an open gate. -/
theorem enter (hopen : jobs.any (·.isInside) = false)
    (hj : j.isInside = true) : AreOrderly (jobs ++ [j]) where
  exclusive := by
    have hnone : jobs.countP (·.isInside) = 0 := by
      rw [List.countP_eq_zero]
      simpa using hopen
    simp [List.countP_append, hnone, hj]
  none_waits hfree := by simp [hj] at hfree

/-- A job outside of the gate may be added; it waits only if the gate is taken. -/
theorem add (h : AreOrderly jobs) (hj : j.isInside = false)
    (hwaits : jobs.any (·.isInside) = false → j.isWaiting = false) :
    AreOrderly (jobs ++ [j]) where
  exclusive := by simpa [List.countP_append, hj] using h.exclusive
  none_waits hfree := by
    have hopen : jobs.any (·.isInside) = false := by simpa [hj] using hfree
    intro i hi
    rcases List.mem_append.mp hi with hi | hi
    · exact h.none_waits hopen i hi
    · rw [List.mem_singleton.mp hi]
      exact hwaits hopen

end AreOrderly

end Job

/-! ### Jobs of a connection -/

namespace Connection

/-- What is left for a connection to do: its jobs, and the frames that its bytes may hold. -/
def remaining (c : Connection) : ℕ :=
  c.jobs.length + c.unread.length

/-- Whether nothing can be taken: the server takes no messages, or no frame is complete. -/
def IsCaughtUp (c : Connection) : Prop :=
  c.isBusy = true ∨ ∃ left, Frame.read c.unread = .unfinished left

/-- Whether a connection has taken on jobs, so many at most, which are in order. It has read
nothing. -/
structure Grows (n : ℕ) (c later : Connection) : Prop where
  orderly : Job.AreOrderly later.jobs
  length_le : later.jobs.length ≤ c.jobs.length + n
  unread_eq : later.unread = c.unread

/-- Whether a connection that has taken messages has no more to do than before. -/
structure Progresses (c later : Connection) : Prop where
  orderly : Job.AreOrderly later.jobs
  remaining_le : later.remaining ≤ c.remaining

/-- The same jobs and bytes are no more. -/
theorem grows_of_same {n : ℕ} {c later : Connection} (hc : Job.AreOrderly c.jobs)
    (h : later.jobs = c.jobs ∧ later.unread = c.unread) : Grows n c later where
  orderly := h.1 ▸ hc
  length_le := by
    rw [h.1]
    exact Nat.le_add_right ..
  unread_eq := h.2

/-- Jobs taken on one after the other add up. -/
theorem Grows.trans {n m : ℕ} {c c' c'' : Connection} (h : Grows n c c') (h' : Grows m c' c'') :
    Grows (n + m) c c'' where
  orderly := h'.orderly
  length_le := by
    have hfirst := h.length_le
    have hsecond := h'.length_le
    omega
  unread_eq := h'.unread_eq.trans h.unread_eq

theorem Grows.mono {n m : ℕ} {c c' : Connection} (h : Grows n c c') (hle : n ≤ m) :
    Grows m c c' :=
  ⟨h.orderly, Nat.le_trans h.length_le (Nat.add_le_add_left hle _), h.unread_eq⟩

end Connection

namespace Environment

open Connection (Grows Progresses grows_of_same)

variable {σ : Type} {env : Environment σ} {place : Place σ Connection}

/-- Whether a connection can be taken from its place and put back, and nothing else gets at it. -/
structure Apart (env : Environment σ) (place : Place σ Connection) : Prop where
  get_set : ∀ c s, place.get (place.set c s) = c
  get_tell : ∀ log s, place.get (env.tell log s) = place.get s
  get_check : ∀ engine files s, place.get (env.check engine files s).2 = place.get s
  get_version : ∀ engine s, place.get (env.version engine s).2 = place.get s
  get_clock : ∀ time s, place.get (env.clock.set time s) = place.get s

/-- Whether a state holds a connection up to its server. -/
def HoldsUpTo (place : Place σ Connection) (c : Connection) (s : σ) : Prop :=
  ∃ server, place.get s = { c with server }

/-- It has the same jobs then, and has read as much. -/
theorem HoldsUpTo.same {c : Connection} {s : σ} (h : HoldsUpTo place c s) :
    (place.get s).jobs = c.jobs ∧ (place.get s).unread = c.unread := by
  obtain ⟨server, hs⟩ := h
  rw [hs]
  exact ⟨rfl, rfl⟩

/-- What may come next: bytes from the client, or the end of a job. -/
inductive Turn where
  | fed (bytes : Bytes)
  | elapsed

/-- A state after that. -/
def turn (env : Environment σ) (place : Place σ Connection) : Turn → σ → σ
  | .fed bytes, s => (env.feed place bytes s).2
  | .elapsed, s => (env.elapse place s).2

namespace Apart

variable {s : σ}

/-- Whatever a server does, it changes nothing of its connection but itself. -/
theorem spares (h : env.Apart place) (c : Connection) :
    env.Spares (serverPlace place) (HoldsUpTo place c) where
  set server s := by
    rintro ⟨old, hs⟩
    exact ⟨server, by rw [serverPlace, h.get_set, hs]⟩
  tell log s hs := by rwa [HoldsUpTo, h.get_tell]
  check engine files s hs := by rwa [HoldsUpTo, h.get_check]
  version engine s hs := by rwa [HoldsUpTo, h.get_version]
  clock time s hs := by rwa [HoldsUpTo, h.get_clock]

/-- A state holds its own connection. -/
theorem holdsUpTo (s : σ) : HoldsUpTo place (place.get s) s := ⟨(place.get s).server, rfl⟩

theorem get_addJob (h : env.Apart place) (j : Job) (s : σ) :
    place.get (addJob place j s) = { place.get s with jobs := (place.get s).jobs ++ [j] } :=
  h.get_set _ _

/-- A query with the gate open is answered, or enters the gate. -/
theorem goOn (h : env.Apart place) (hs : Job.AreOrderly (place.get s).jobs)
    (hopen : (place.get s).isGateTaken = false) (id : Option RequestId) (q : Query)
    (stage : Stage) : Grows 1 (place.get s) (place.get (env.goOn place id q stage s).2) := by
  have hpursued := (h.spares (place.get s)).pursue q stage (holdsUpTo s)
  rw [Environment.goOn]
  split
  next answer s' hresult =>
    rw [hresult] at hpursued
    exact grows_of_same hs hpursued.same
  next check s' hresult =>
    rw [hresult] at hpursued
    obtain ⟨server, hget⟩ := hpursued
    rw [h.get_addJob, hget]
    exact ⟨.enter hopen rfl, by simp, rfl⟩

/-- A query with the gate taken is answered, or waits. -/
theorem ask (h : env.Apart place) (hs : Job.AreOrderly (place.get s).jobs)
    (id : Option RequestId) (q : Query) :
    Grows 1 (place.get s) (place.get (env.ask place id q s).2) := by
  rw [Environment.ask]
  split
  next => exact grows_of_same hs (holdsUpTo s).same
  next =>
    cases htaken : (place.get s).isGateTaken with
    | false => exact h.goOn hs htaken id q q.start
    | true =>
        have happroached := (h.spares (place.get s)).updateQueries
          (fun o => o.approach (env.tree s) q q.start.rank q.start) (holdsUpTo s)
        simp only [Bool.not_true, Bool.false_eq_true, if_false]
        split
        next answer s' hresult =>
          rw [hresult] at happroached
          exact grows_of_same hs happroached.same
        next stage s' hresult =>
          rw [hresult] at happroached
          obtain ⟨server, hget⟩ := happroached
          rw [h.get_addJob, hget]
          exact ⟨hs.add rfl fun hopen => absurd (htaken.symm.trans hopen) (by decide),
            by simp, rfl⟩

/-- Jobs outside of the gate are taken up, and one of them at most enters it. -/
theorem takeUp (h : env.Apart place) {jobs : List Job}
    (hjobs : ∀ j ∈ jobs, j.isInside = false) (hs : Job.AreOrderly (place.get s).jobs) :
    Grows jobs.length (place.get s) (place.get (env.takeUp place jobs s).2) := by
  induction jobs generalizing s with
  | nil => exact grows_of_same hs (holdsUpTo s).same
  | cons j rest ih =>
      have hkept (hwaits : (place.get s).isGateTaken = false → j.isWaiting = false) :
          Grows 1 (place.get s) (place.get (addJob place j s)) := by
        rw [h.get_addJob]
        exact ⟨hs.add (hjobs j (List.mem_cons_self ..)) hwaits, by simp, rfl⟩
      have hrest {s' : σ} (hgrows : Grows 1 (place.get s) (place.get s')) :
          Grows (rest.length + 1) (place.get s) (place.get (env.takeUp place rest s').2) :=
        (hgrows.trans (ih (fun i hi => hjobs i (List.mem_cons_of_mem _ hi)) hgrows.orderly)).mono
          (Nat.le_of_eq (Nat.add_comm ..))
      rw [Environment.takeUp]
      refine hrest ?_
      split
      next q htask hopen => exact h.goOn hs hopen j.id q .waiting
      next hnot =>
        refine hkept fun hopen => ?_
        cases hwaiting : j.isWaiting with
        | false => rfl
        | true =>
            obtain ⟨q, htask⟩ := Job.task_of_isWaiting hwaiting
            exact (hnot q htask hopen).elim

/-- Jobs of which one at most has a query inside the gate are brought in order. -/
theorem resume (h : env.Apart place) {jobs : List Job}
    (hjobs : jobs.countP (·.isInside) ≤ 1) :
    Job.AreOrderly (place.get (env.resume place jobs s).2).jobs ∧
      (place.get (env.resume place jobs s).2).jobs.length ≤ jobs.length ∧
      (place.get (env.resume place jobs s).2).unread = (place.get s).unread := by
  rw [Environment.resume]
  cases htaken : jobs.any (·.isInside) with
  | true =>
      have hget : place.get (setJobs place jobs s) = { place.get s with jobs } := h.get_set ..
      simp only [if_true, hget]
      exact ⟨⟨hjobs, fun hopen => by simp [htaken] at hopen⟩, Nat.le_refl _, trivial⟩
  | false =>
      have hget : place.get (setJobs place [] s) = { place.get s with jobs := [] } := h.get_set ..
      have houtside : ∀ j ∈ jobs, j.isInside = false := by simpa using htaken
      have hgrows := h.takeUp houtside (s := setJobs place [] s) (by rw [hget]; exact .nil)
      simp only [Bool.false_eq_true, if_false]
      refine ⟨hgrows.orderly, ?_, ?_⟩
      · simpa [hget] using hgrows.length_le
      · simpa [hget] using hgrows.unread_eq

/-- A job that is done leaves the other jobs alone. -/
theorem complete (h : env.Apart place) (j : Job) (s : σ) :
    (place.get (env.complete place j s).2).jobs = (place.get s).jobs ∧
      (place.get (env.complete place j s).2).unread = (place.get s).unread := by
  have hspares := h.spares (place.get s)
  obtain ⟨id, task⟩ := j
  cases task with
  | waiting q => exact ⟨rfl, rfl⟩
  | checking q check =>
      exact (hspares.conclude q check.start check.files check.fingerprints check.result
        (holdsUpTo s)).same
  | abandoned check => exact (hspares.publishAlone check (holdsUpTo s)).same
  | greeting engine version due =>
      have hwelcomed := (hspares.welcome engine version (holdsUpTo s)).same
      simpa only [Environment.complete, send, h.get_set, Connection.asked] using hwelcomed

/-- A greeting is given at once, or adds a job that waits for no gate. -/
theorem greeted (h : env.Apart place) (hs : Job.AreOrderly (place.get s).jobs) :
    Grows 1 (place.get s) (place.get (env.greeted place s).2) := by
  rw [Environment.greeted]
  split
  next => exact grows_of_same hs (holdsUpTo s).same
  next o _ =>
    have hversion := h.get_version o.setup.engine s
    dsimp only
    split_ifs
    · have hdone := h.complete
        ⟨none, .greeting o.setup.engine.name (env.version o.setup.engine s).1
          (env.clock.get (env.version o.setup.engine s).2)⟩ (env.version o.setup.engine s).2
      rw [hversion] at hdone
      exact grows_of_same hs hdone
    · rw [h.get_addJob, h.get_clock, hversion]
      exact ⟨hs.add rfl fun _ => rfl, by simp, rfl⟩

/-- Taking requests back leaves no more jobs than there were. -/
theorem takeBack (h : env.Apart place) (hs : Job.AreOrderly (place.get s).jobs)
    (isMeant : RequestId → Bool) :
    Grows 0 (place.get s) (place.get (env.takeBack place isMeant s).2) := by
  simp only [Environment.takeBack]
  have hleft : ((place.get s).jobs.filterMap fun j =>
      if j.id.any isMeant = true then j.abandoned? else some j).countP (·.isInside) ≤ 1 := by
    rw [List.countP_filterMap]
    refine Nat.le_trans (List.countP_mono_left fun j _ hj => ?_) hs.exclusive
    split_ifs at hj
    · cases hleft : j.abandoned? with
      | none => simp [hleft] at hj
      | some left => simp [hleft, (Job.isInside_of_abandoned? hleft).1] at hj
    · exact hj
  obtain ⟨horderly, hlength, hunread⟩ := h.resume (s := s) hleft
  exact ⟨horderly, Nat.le_trans hlength (List.length_filterMap_le ..), hunread⟩

/-! ### Messages -/

/-- A request adds one job at most. -/
theorem takeRequest (h : env.Apart place) (hs : Job.AreOrderly (place.get s).jobs) (r : Request) :
    Grows 1 (place.get s) (place.get (env.takeRequest place r s).2) := by
  have hreceived := (h.spares (place.get s)).receive r (holdsUpTo s)
  simp only [Environment.takeRequest]
  split
  next => exact grows_of_same hs (holdsUpTo s).same
  next =>
    split
    next q _ => exact h.ask hs r.id q
    next => exact h.greeted hs
    next =>
      refine Grows.mono ?_ (Nat.zero_le 1)
      split
      next s' hresult =>
        rw [hresult] at hreceived
        refine grows_of_same hs ?_
        simpa only [h.get_set, Connection.close] using hreceived.same
      next handled s' hresult =>
        rw [hresult] at hreceived
        have hasked : Grows 0 (place.get s)
            (place.get (place.set ((place.get s').asked handled.sent) s')) := by
          refine grows_of_same hs ?_
          simpa only [h.get_set, Connection.asked] using hreceived.same
        split
        · exact hasked.trans (h.takeBack hasked.orderly _)
        · split
          · exact hasked.trans (h.takeBack hasked.orderly _)
          · exact hasked

/-- **A message adds one job at most**, and leaves the jobs in order. -/
theorem take (h : env.Apart place) (hs : Job.AreOrderly (place.get s).jobs) (m : Message) :
    Grows 1 (place.get s) (place.get (env.take place m s).2) := by
  cases m with
  | request r => exact h.takeRequest hs r
  | response r =>
      simp only [Environment.take]
      split_ifs
      · rw [Environment.replied, h.get_tell, h.get_set]
        exact grows_of_same hs ⟨rfl, rfl⟩
      · exact grows_of_same hs ⟨rfl, rfl⟩

/-- The messages that are complete are taken, each for bytes that it takes away. -/
theorem takeAll (h : env.Apart place) (hs : Job.AreOrderly (place.get s).jobs) (fuel : ℕ) :
    Progresses (place.get s) (place.get (env.takeAll place fuel s).2) := by
  induction fuel generalizing s with
  | zero => exact ⟨hs, Nat.le_refl _⟩
  | succ fuel ih =>
      have hrest {rest : Bytes} (hshorter : rest.length < (place.get s).unread.length) {s' : σ}
          (hgrows : Grows 1 (place.get s) (place.get s')) : Progresses (place.get s) (place.get
            (env.takeAll place fuel (place.set { place.get s' with unread := rest } s')).2) := by
        have hlater := ih (s := place.set { place.get s' with unread := rest } s')
          (by rw [h.get_set]; exact hgrows.orderly)
        rw [h.get_set] at hlater
        refine ⟨hlater.orderly, Nat.le_trans hlater.remaining_le ?_⟩
        have hjobs := hgrows.length_le
        simp only [Connection.remaining]
        omega
      simp only [Environment.takeAll]
      split
      next => exact ⟨hs, Nat.le_refl _⟩
      next =>
        split
        next => exact ⟨hs, Nat.le_refl _⟩
        next =>
          rw [h.get_set]
          exact ⟨hs, Nat.le_refl _⟩
        next rest hread =>
          exact hrest (Frame.length_lt_of_read (.inl hread)) (grows_of_same hs ⟨rfl, rfl⟩)
        next m rest hread =>
          exact hrest (Frame.length_lt_of_read (.inr ⟨m, hread⟩)) (h.take hs m)

/-- With fuel for all frames, none is left that can be taken. -/
theorem isCaughtUp_takeAll (h : env.Apart place) {fuel : ℕ}
    (hfuel : (place.get s).unread.length < fuel) :
    (place.get (env.takeAll place fuel s).2).IsCaughtUp := by
  induction fuel generalizing s with
  | zero => exact absurd hfuel (Nat.not_lt_zero _)
  | succ fuel ih =>
      have hrest {rest : Bytes} (hshorter : rest.length < (place.get s).unread.length) (s' : σ) :=
        ih (s := place.set { place.get s' with unread := rest } s')
          (by rw [h.get_set]; exact Nat.lt_of_lt_of_le hshorter (Nat.le_of_lt_succ hfuel))
      simp only [Environment.takeAll]
      split
      next hbusy => exact .inl hbusy
      next =>
        split
        next left hread => exact .inr ⟨left, hread⟩
        next =>
          rw [h.get_set]
          exact .inl (by simp [Connection.isBusy, Connection.close])
        next rest hread => exact hrest (Frame.length_lt_of_read (.inl hread)) s
        next m rest hread =>
          exact hrest (Frame.length_lt_of_read (.inr ⟨m, hread⟩)) (env.take place m s).2

/-- Bytes that come are jobs and frames to do, as many as they are at most. -/
theorem feed (h : env.Apart place) (hs : Job.AreOrderly (place.get s).jobs) (bytes : Bytes) :
    Job.AreOrderly (place.get (env.feed place bytes s).2).jobs ∧
      (place.get (env.feed place bytes s).2).remaining ≤
        (place.get s).remaining + bytes.length ∧
      (place.get (env.feed place bytes s).2).IsCaughtUp := by
  have hget := h.get_set { place.get s with unread := (place.get s).unread ++ bytes } s
  have hlater := h.takeAll (by rw [hget]; exact hs) (((place.get s).unread ++ bytes).length + 1)
  have hfuel : (place.get (place.set
      { place.get s with unread := (place.get s).unread ++ bytes } s)).unread.length <
        ((place.get s).unread ++ bytes).length + 1 := by
    rw [hget]
    exact Nat.lt_succ_self _
  have hcaught := h.isCaughtUp_takeAll hfuel
  refine ⟨hlater.orderly, Nat.le_trans hlater.remaining_le ?_, hcaught⟩
  rw [hget]
  simp only [Connection.remaining, List.length_append]
  omega

/-! ### Time -/

/-- Where there are no jobs, no time passes. -/
theorem elapse_of_no_jobs (hs : (place.get s).jobs = []) : env.elapse place s = ([], s) := by
  have hnext : Job.next? [] = none := by simp [Job.next?]
  simp only [Environment.elapse]
  rw [hs, hnext]

/-- However much fuel there is for it. -/
theorem elapseAll_of_no_jobs (hs : (place.get s).jobs = []) (fuel : ℕ) :
    env.elapseAll place fuel s = ([], s) := by
  induction fuel with
  | zero => rfl
  | succ fuel ih =>
      simp only [Environment.elapseAll]
      rw [elapse_of_no_jobs hs, ih]
      rfl

/-- **A job that ends** leaves less to be done, with the jobs in order and all messages taken
that can be. -/
theorem elapse (h : env.Apart place) (hs : Job.AreOrderly (place.get s).jobs)
    (hjobs : (place.get s).jobs ≠ []) :
    Job.AreOrderly (place.get (env.elapse place s).2).jobs ∧
      (place.get (env.elapse place s).2).remaining < (place.get s).remaining ∧
      (place.get (env.elapse place s).2).IsCaughtUp := by
  simp only [Environment.elapse]
  split
  next hnext => exact absurd (hs.eq_nil_of_next? hnext) hjobs
  next due j hnext =>
    obtain ⟨hj, hdue⟩ := Job.mem_of_next? hnext
    have hfewer := Job.length_without hj hdue
    have hsome := List.length_pos_of_mem hj
    have hone : (Job.without (place.get s).jobs due).countP (·.isInside) ≤ 1 :=
      Nat.le_trans (List.Sublist.countP_le (List.eraseP_sublist ..)) hs.exclusive
    obtain ⟨-, hunread⟩ :=
      h.complete j (env.clock.set (max due (env.clock.get s)) s)
    obtain ⟨horderly, hlength, hsame⟩ := h.resume
      (s := (env.complete place j (env.clock.set (max due (env.clock.get s)) s)).2) hone
    obtain ⟨hfed, hremaining, hcaught⟩ := h.feed horderly []
    refine ⟨hfed, Nat.lt_of_le_of_lt hremaining ?_, hcaught⟩
    rw [h.get_clock] at hunread
    simp only [Connection.remaining, hsame, hunread, List.length_nil]
    omega

/-- As much fuel as there is to do lets all jobs come to their end. -/
theorem elapseAll (h : env.Apart place) {fuel : ℕ} (hs : Job.AreOrderly (place.get s).jobs)
    (hcaught : (place.get s).IsCaughtUp) (hfuel : (place.get s).remaining ≤ fuel) :
    (place.get (env.elapseAll place fuel s).2).jobs = [] ∧
      (place.get (env.elapseAll place fuel s).2).IsCaughtUp := by
  induction fuel generalizing s with
  | zero =>
      have hnone : (place.get s).jobs.length = 0 := by
        simp only [Connection.remaining] at hfuel
        omega
      exact ⟨List.length_eq_zero_iff.mp hnone, hcaught⟩
  | succ fuel ih =>
      by_cases hjobs : (place.get s).jobs = []
      · rw [elapseAll_of_no_jobs hjobs]
        exact ⟨hjobs, hcaught⟩
      · obtain ⟨horderly, hless, hlater⟩ := h.elapse hs hjobs
        rw [Environment.elapseAll]
        exact ih horderly hlater (Nat.le_of_lt_succ (Nat.lt_of_lt_of_le hless hfuel))

/-- **All jobs come to their end**, and all messages are taken that are complete. -/
theorem settle (h : env.Apart place) (hs : Job.AreOrderly (place.get s).jobs)
    (hcaught : (place.get s).IsCaughtUp) :
    (place.get (env.settle place s).2).jobs = [] ∧
      (place.get (env.settle place s).2).IsCaughtUp :=
  h.elapseAll hs hcaught (Nat.le_refl _)

/-- **The gate is kept** whatever comes from the client, and whenever time passes in between. -/
theorem turns (h : env.Apart place) (hs : Job.AreOrderly (place.get s).jobs)
    (turns : List Turn) :
    Job.AreOrderly (place.get (turns.foldl (fun s t => env.turn place t s) s)).jobs := by
  induction turns generalizing s with
  | nil => exact hs
  | cons t rest ih =>
      refine ih ?_
      cases t with
      | fed bytes => exact (h.feed hs bytes).1
      | elapsed =>
          by_cases hjobs : (place.get s).jobs = []
          · simpa only [turn, elapse_of_no_jobs hjobs] using hs
          · exact (h.elapse hs hjobs).1

end Apart

/-! ### Engines that take no time -/

/-- Whether the clock stands still while an engine works. -/
structure IsInstant (env : Environment σ) : Prop where
  check : ∀ engine files s, env.clock.get (env.check engine files s).2 = env.clock.get s
  version : ∀ engine s, env.clock.get (env.version engine s).2 = env.clock.get s

namespace IsInstant

variable {s : σ}

/-- A query that has to wait for nothing goes on to its answer. -/
theorem pursue (h : env.IsInstant) (queries : Place σ Orchestrator) (q : Query) (stage : Stage)
    (s : σ) : env.pursue queries q stage s =
      (.inl (env.finish queries q stage s).1, (env.finish queries q stage s).2) := by
  rw [Environment.pursue, finish]
  split
  next start files fingerprints s' hstage => simp only [hstage, h.check, if_true]
  next stage' s' hnot hstage => simp only [hstage]

/-- So a query for which the gate is open is answered as it would be without jobs. -/
theorem ask (h : env.IsInstant) (hopen : (place.get s).isGateTaken = false)
    (id : Option RequestId) (q : Query) : env.ask place id q s =
      (Connection.replyTo id (.ok (env.diagnose (serverPlace place) q s).1.toJson),
        (env.diagnose (serverPlace place) q s).2) := by
  rw [Environment.ask, Environment.diagnose]
  have hserver : ((serverPlace place).get s).session.orchestrator =
      (place.get s).server.session.orchestrator := rfl
  rw [hserver]
  cases (place.get s).server.session.orchestrator with
  | none => rfl
  | some o => simp only [hopen, Bool.not_false, if_true, Environment.goOn, h.pursue, answer]

/-- And a client that is ready is welcomed at once. -/
theorem greeted (h : env.IsInstant) {o : Orchestrator}
    (ho : (place.get s).server.session.orchestrator = some o) : env.greeted place s =
      send place (env.greet (serverPlace place) s).1 (env.greet (serverPlace place) s).2 := by
  have hserver : ((serverPlace place).get s).session.orchestrator = some o := ho
  rw [Environment.greeted, greet]
  rw [hserver, ho]
  simp only [h.version, if_true, complete]

end IsInstant

end Environment

/-! ### Sites -/

namespace Site

/-- Nothing on a machine gets at the connection but its server. -/
theorem apart_environment : environment.Apart place where
  get_set _ _ := rfl
  get_tell _ _ := rfl
  get_check engine files s := by cases engine <;> rfl
  get_version engine s := by
    cases engine with
    | command checker =>
        simp only [environment, version]
        split <;> rfl
    | provided name run => rfl
  get_clock _ _ := rfl

/-- **What a client has asked for is done**, as far as it is complete, when it may send more. -/
theorem idle_of_read {s : Site} (hs : s.connection.jobs = []) (bytes : Bytes) :
    (s.read bytes).2.connection.jobs = [] ∧
      ((s.read bytes).2.connection.isReading = true →
        ∃ left, Frame.read (s.read bytes).2.connection.unread = .unfinished left) := by
  have horderly : Job.AreOrderly (place.get s).jobs := by
    rw [show (place.get s).jobs = [] from hs]
    exact .nil
  obtain ⟨hfed, -, hcaught⟩ := apart_environment.feed horderly bytes
  obtain ⟨hnone, hlast⟩ := apart_environment.settle hfed hcaught
  refine ⟨hnone, fun hreading => hlast.resolve_left fun hbusy => ?_⟩
  have hbusy : (s.read bytes).2.connection.isBusy = true := hbusy
  have hnone : (s.read bytes).2.connection.jobs = [] := hnone
  simp [Connection.isBusy, hreading, hnone, Connection.mostJobs] at hbusy

end Site

end PullDiagnostics
