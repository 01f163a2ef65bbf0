import PullDiagnostics.Protocol.Method
import PullDiagnostics.Server.Session

/-!
# What a server runs in

Around a server there are files, a log, and engines that do their work. While an engine works,
other things may happen. So what a server does is a function from one state of all that is
around it to the next, whatever such a state is; a `Place` says where in it the thing is that
the server works on.
-/

namespace PullDiagnostics

/-- Where a value is kept in a state. -/
structure Place (σ α : Type) where
  get : σ → α
  set : α → σ → σ

/-- What a server can do with the state around it. -/
structure Environment (σ : Type) where
  tree : σ → FileTree
  /-- Keeps records. -/
  tell : Log → σ → σ
  /-- Has an engine check files. -/
  check : Engine → List FilePath → σ → CheckResult × σ
  /-- Asks an engine for its version. -/
  version : Engine → σ → Ending String × σ
  /-- The clock, which goes on while an engine works. -/
  clock : Place σ Nat := ⟨fun _ => 0, fun _ s => s⟩

namespace Environment

variable {σ : Type}

/-- Applies a change that tells something. -/
def update {α β : Type} (env : Environment σ) (place : Place σ α)
    (change : α → α × β × Log) (s : σ) :
    β × σ :=
  let (a, result, log) := change (place.get s)
  (result, env.tell log (place.set a s))

/-- Has an engine analyse files; none if nothing comes back. -/
def analyse (env : Environment σ) (engine : Engine) (files : List FilePath) (s : σ) :
    Option Pass × σ :=
  if files.isEmpty then (some {}, s)
  else
    let fingerprints := Pass.snapshot (env.tree s) files
    let (result, s) := env.check engine files s
    let (pass, log) := Pass.ofResult? engine.name files fingerprints result
    (pass, env.tell log s)

/-- Lets a query go on as far as it can without an engine. -/
def advance (env : Environment σ) (place : Place σ Orchestrator) (q : Query) (stage : Stage)
    (s : σ) :
    Stage × σ :=
  env.update place (fun o => o.proceed (env.tree s) q stage.rank stage) s

/-- The answer at a stage; there is none to be shown before the end. -/
def answerAt : Stage → Answer
  | .answered answer => answer
  | _ => default

/-- Lets a query go on to its answer when the engine of its pass has checked the files. -/
def conclude (env : Environment σ) (place : Place σ Orchestrator) (q : Query) (start : PassStart)
    (files : List FilePath) (fingerprints : List (FilePath × Fingerprint)) (result : CheckResult)
    (s : σ) : Answer × σ :=
  let (stage, log) := Orchestrator.checked start files fingerprints result
  let (stage, s) := env.advance place q stage (env.tell log s)
  (answerAt stage, s)

/-- Lets a query go on from a stage to its answer. A query runs at most one pass. -/
def finish (env : Environment σ) (place : Place σ Orchestrator) (q : Query) (stage : Stage)
    (s : σ) :
    Answer × σ :=
  match env.advance place q stage s with
  | (.check start files fingerprints, s) =>
      let (result, s) := env.check start.setup.engine files s
      env.conclude place q start files fingerprints result s
  | (stage, s) => (answerAt stage, s)

/-- Answers a query. -/
def answer (env : Environment σ) (place : Place σ Orchestrator) (q : Query) (s : σ) :
    Answer × σ :=
  env.finish place q q.start s

/-- Starts queries one after the other and takes each to where it waits for the gate. -/
def approachAll (env : Environment σ) (place : Place σ Orchestrator) :
    List Query → σ → List (Query × Stage) × σ
  | [], s => ([], s)
  | q :: rest, s =>
      let (stage, s) :=
        env.update place (fun o => o.approach (env.tree s) q q.start.rank q.start) s
      let (others, s) := approachAll env place rest s
      ((q, stage) :: others, s)

/-- Takes queries to their answers one after the other. -/
def finishAll (env : Environment σ) (place : Place σ Orchestrator) :
    List (Query × Stage) → σ → List Answer × σ
  | [], s => ([], s)
  | (q, stage) :: rest, s =>
      let (answer, s) := env.finish place q stage s
      let (others, s) := finishAll env place rest s
      (answer :: others, s)

/-- Answers queries that are made at the same time: all of them look for what is known before
any of them enters the gate. -/
def answerAll (env : Environment σ) (place : Place σ Orchestrator) (queries : List Query) (s : σ) :
    List Answer × σ :=
  let (waiting, s) := env.approachAll place queries s
  env.finishAll place waiting s

end Environment

end PullDiagnostics
