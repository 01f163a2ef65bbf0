import Mathlib.Tactic.SplitIfs
import PullDiagnostics.Server.Jobs

/-!
# What a server leaves alone

A server works on a state of which it knows little: it puts itself back where it was taken from,
tells records, has an engine work, and sets the clock. A property that each of these keeps is kept
by all that the server does, whatever requests it takes.

## Main results

* `Environment.Spares`: the property is kept by each of these.
* `Environment.Spares.receive`: it is kept when a request is taken.
* `Environment.Spares.pursue`, `Environment.Spares.conclude`: it is kept while a query goes on.
-/

namespace PullDiagnostics.Environment

open Protocol

variable {σ : Type} {env : Environment σ} {place : Place σ Server} {kept : σ → Prop}

/-- Whether a property of the state is kept by whatever an environment does, and by putting a
server in its place. -/
structure Spares (env : Environment σ) (place : Place σ Server) (kept : σ → Prop) : Prop where
  set : ∀ server {s}, kept s → kept (place.set server s)
  tell : ∀ log {s}, kept s → kept (env.tell log s)
  check : ∀ engine files {s}, kept s → kept (env.check engine files s).2
  version : ∀ engine {s}, kept s → kept (env.version engine s).2
  clock : ∀ time {s}, kept s → kept (env.clock.set time s)

namespace Spares

variable {s : σ}

/-! ### Queries -/

/-- A change of the server tells something, and does no more. -/
theorem update (h : env.Spares place kept) {β : Type} (change : Server → Server × β × Log)
    (hs : kept s) : kept (env.update place change s).2 :=
  h.tell _ (h.set _ hs)

/-- So does a change of the orchestrator, which is put back with its server. -/
theorem updateQueries (h : env.Spares place kept) {β : Type}
    (change : Orchestrator → Orchestrator × β × Log) (hs : kept s) :
    kept (env.update (orchestratorPlace place) change s).2 :=
  h.tell _ (h.set _ hs)

/-- A query goes on as far as it can by itself. -/
theorem advance (h : env.Spares place kept) (q : Query) (stage : Stage) (hs : kept s) :
    kept (env.advance (orchestratorPlace place) q stage s).2 :=
  h.updateQueries _ hs

/-- A query is taken to its answer. -/
theorem conclude (h : env.Spares place kept) (q : Query) (start : PassStart)
    (files : List FilePath) (fingerprints : List (FilePath × Fingerprint)) (result : CheckResult)
    (hs : kept s) :
    kept (env.conclude (orchestratorPlace place) q start files fingerprints result s).2 :=
  h.advance q _ (h.tell _ hs)

/-- A query is taken to its answer or to a check that takes time. -/
theorem pursue (h : env.Spares place kept) (q : Query) (stage : Stage) (hs : kept s) :
    kept (env.pursue (orchestratorPlace place) q stage s).2 := by
  have hadvanced := h.advance q stage hs
  rw [Environment.pursue]
  split
  next start files fingerprints s' hstage =>
    rw [hstage] at hadvanced
    have hchecked := h.check start.setup.engine files hadvanced
    dsimp only
    split
    · exact h.conclude q start files fingerprints _ hchecked
    · exact h.clock _ hchecked
  next stage' s' hstage => rwa [hstage] at hadvanced

/-- A query is answered at once. -/
theorem diagnose (h : env.Spares place kept) (q : Query) (hs : kept s) :
    kept (env.diagnose place q s).2 := by
  rw [Environment.diagnose]
  split
  · exact hs
  · have hadvanced := h.advance q q.start hs
    rw [Environment.answer, finish]
    split
    next start files fingerprints s' hstage =>
      rw [hstage] at hadvanced
      exact h.conclude q start files fingerprints _ (h.check start.setup.engine files hadvanced)
    next stage' s' hstage => rwa [hstage] at hadvanced

/-- A pass is published that no query waits for. -/
theorem publishAlone (h : env.Spares place kept) (check : PendingCheck) (hs : kept s) :
    kept (env.publishAlone (orchestratorPlace place) check s) := by
  simp only [Environment.publishAlone]
  split
  · exact h.set _ (h.tell _ hs)
  · exact h.tell _ hs

/-! ### Requests -/

/-- The client is told of the engine, and asked to watch files. -/
theorem welcome (h : env.Spares place kept) (engine : String) (version : Ending String)
    (hs : kept s) : kept (env.welcome place engine version s).2 :=
  h.update Server.askToWatch (h.tell _ hs)

theorem greet (h : env.Spares place kept) (hs : kept s) : kept (env.greet place s).2 := by
  rw [Environment.greet]
  split
  · exact hs
  · exact h.welcome _ _ (h.version _ hs)

/-- Whatever a client wants is done. -/
theorem perform (h : env.Spares place kept) (call : Call) (hs : kept s) :
    kept (env.perform place call s).2 := by
  cases call with
  | ready => exact h.greet hs
  | diagnose q => exact h.diagnose q hs
  | shutdown => exact h.tell _ hs
  | saved d => exact hs
  | start params => exact h.update (·.mapSession (·.start (env.tree s) params)) hs
  | opened d version => exact h.update (·.mapOrchestrator (·.opened d version)) hs
  | changed d version => exact h.update (·.mapOrchestrator (·.changed d version)) hs
  | closed d => exact h.update (·.mapOrchestrator (·.closed d)) hs
  | configured settings => exact h.update (·.mapSession (·.configured settings)) hs
  | watched changes => exact h.update (·.mapOrchestrator (·.watched changes)) hs

/-- A request in the right phase is read first, and may be refused. -/
theorem dispatch (h : env.Spares place kept) (m : Method) (r : Request) (hs : kept s) :
    kept (env.dispatch place m r s).2 := by
  rw [Environment.dispatch]
  split_ifs
  · exact hs
  · exact hs
  · split
    · exact hs
    · exact hs
    · exact h.perform _ hs

/-- Besides, the server may enter another phase. -/
theorem handle (h : env.Spares place kept) (m : Method) (r : Request) (hs : kept s) :
    kept (env.handle place m r s).2 := by
  have henter (phase : Phase) {s : σ} (hs : kept s) : kept (enter place phase s) := h.set _ hs
  simp only [Environment.handle]
  split_ifs
  · exact h.dispatch m r hs
  · exact henter _ (h.dispatch m r hs)
  · exact h.dispatch m r hs
  · exact hs
  · exact h.dispatch m r (henter _ hs)
  · exact h.dispatch m r hs
  · exact hs

/-- **Whatever the request is**, taking it keeps what is spared. -/
theorem receive (h : env.Spares place kept) (r : Request) (hs : kept s) :
    kept (env.receive place r s).2 := by
  rw [Environment.receive]
  split_ifs
  · exact hs
  · exact h.set _ hs
  · split
    · exact hs
    · exact h.handle _ r hs

end Spares

end PullDiagnostics.Environment
