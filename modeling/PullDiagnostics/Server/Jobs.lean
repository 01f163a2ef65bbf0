import PullDiagnostics.Server.Basic

/-!
# Jobs

What a server has begun and cannot bring to its end at once: a query that waits for the gate, a
pass of which the engine is at work, a greeting for which the engine is asked for its version.
While they are under way, the server takes other messages.

An engine is given its work at once, and does it to what is around the server as if no time went
by; what it says is kept until the time has come at which it would have been said. An engine that
takes no time leaves nothing to wait for.
-/

namespace PullDiagnostics

open Protocol

/-- The check of a pass, and the time at which it is done. -/
structure PendingCheck where
  start : PassStart
  files : List FilePath
  fingerprints : List (FilePath × Fingerprint)
  result : CheckResult
  due : Nat

/-- Something that a server has begun. -/
inductive Task where
  /-- A query waits for the gate. -/
  | waiting (q : Query)
  /-- A query is inside the gate, and the engine of its pass is at work. -/
  | checking (q : Query) (check : PendingCheck)
  /-- The engine of a pass is at work, while the query was taken back. -/
  | abandoned (check : PendingCheck)
  /-- The engine is asked for its version. -/
  | greeting (engine : String) (version : Ending String) (due : Nat)

/-- Something that a server has begun, and the request that it is the reply to, if any. -/
structure Job where
  id : Option RequestId
  task : Task

namespace Job

/-- The time at which a job goes on, unless it waits for another one. -/
def due? (j : Job) : Option Nat :=
  match j.task with
  | .waiting _ => none
  | .checking _ check | .abandoned check => some check.due
  | .greeting _ _ due => some due

/-- Whether a job has a query inside the gate. -/
def isInside (j : Job) : Bool :=
  match j.task with
  | .checking _ _ => true
  | .waiting _ | .abandoned _ | .greeting _ _ _ => false

/-- Whether the server itself works on a job, and not only an engine. -/
def isOwn (j : Job) : Bool :=
  match j.task with
  | .abandoned _ => false
  | .waiting _ | .checking _ _ | .greeting _ _ _ => true

/-- What is left of a job when its request is taken back: the pass, since no engine is stopped. -/
def abandoned? (j : Job) : Option Job :=
  match j.task with
  | .checking _ check | .abandoned check => some ⟨none, .abandoned check⟩
  | .waiting _ | .greeting _ _ _ => none

/-- The job that goes on first, and when. Of those that go on at the same time it is the one that
was begun first. -/
def next? (jobs : List Job) : Option (Nat × Job) :=
  ((jobs.filterMap fun j => j.due?.map (·, j)).mergeSort fun a b => a.1 ≤ b.1).head?

/-- The jobs without the first of those that go on at a time. -/
def without (jobs : List Job) (due : Nat) : List Job :=
  jobs.eraseP fun j => j.due? = some due

end Job

namespace Environment

variable {σ : Type}

/-- Lets a query go on from a stage, with the gate open, to its answer or to a check that takes
time. -/
def pursue (env : Environment σ) (place : Place σ Orchestrator) (q : Query) (stage : Stage)
    (s : σ) : (Answer ⊕ PendingCheck) × σ :=
  match env.advance place q stage s with
  | (.check start files fingerprints, s) =>
      let (result, later) := env.check start.setup.engine files s
      if env.clock.get later = env.clock.get s then
        let (answer, s) := env.conclude place q start files fingerprints result later
        (.inl answer, s)
      else
        (.inr ⟨start, files, fingerprints, result, env.clock.get later⟩,
          env.clock.set (env.clock.get s) later)
  | (stage, s) => (.inl (answerAt stage), s)

/-- Publishes the pass of a check that no query waits for. -/
def publishAlone (env : Environment σ) (place : Place σ Orchestrator) (check : PendingCheck)
    (s : σ) : σ :=
  let (pass, log) :=
    Pass.ofResult? check.start.setup.engine.name check.files check.fingerprints check.result
  let s := env.tell log s
  match pass with
  | some pass =>
      let o := place.get s
      place.set { o with cache := o.cache.publish (env.tree s) check.start.epoch pass } s
  | none => s

end Environment

end PullDiagnostics
