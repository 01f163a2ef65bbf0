import PullDiagnostics.Cache
import PullDiagnostics.Diagnostic
import PullDiagnostics.Engine
import PullDiagnostics.SourceSet.Discovery
import PullDiagnostics.Versions

/-!
# Orchestration

Queries for diagnostics are answered from the cache if it holds, and else by a pass over all
sources. Passes are dear, so only one runs at a time, behind a gate; a query that has waited
for the gate looks into the cache again, since the pass before it may have answered it.

A query goes through stages, and other queries and events may come in between any two of
them. `Orchestrator.step` makes what a query does in one go; entering the gate and the check
itself are steps of their own, since they wait for something outside.

No query fails. What goes wrong is told in the log, and the answer holds what is known.
-/

namespace PullDiagnostics

/-- What a pass runs, and how its findings are shown. -/
structure Setup where
  engine : Engine
  sources : SourceSet
  presenter : Presenter
  deriving Inhabited

/-- What queries and events share. -/
structure Orchestrator where
  setup : Setup
  cache : Cache := {}
  versions : Versions := {}
  /-- The number of passes begun so far. -/
  passes : Nat := 0
  /-- The documents that the last reports to the client have shown with issues, in order. -/
  reported : List DocumentUri := []
  deriving Inhabited

/-- What has happened to a file on disk. -/
inductive FileChange where
  | created
  | changed
  | deleted
  deriving DecidableEq, Inhabited

/-- What a client asks for. -/
inductive Query where
  | document (d : DocumentUri)
  | workspace
  deriving DecidableEq, Inhabited

/-- What a report says of one document. -/
structure WorkspaceItem where
  document : DocumentUri
  version : Option Int
  diagnostics : List Diagnostic
  deriving DecidableEq, Inhabited

/-- What a client is told. -/
inductive Answer where
  | document (diagnostics : List Diagnostic)
  | workspace (items : List WorkspaceItem)
  deriving DecidableEq, Inhabited

/-- A pass as it begins: what it runs, when it began, and its number. -/
structure PassStart where
  setup : Setup
  epoch : Epoch
  number : Nat
  deriving Inhabited

/-- Where a query is. Lookups and passes run beside the query itself, which goes on when they
are done; a lookup says whether the query is inside the gate. -/
inductive Stage where
  /-- A lookup is about to take the entry. -/
  | lookup (inside : Bool)
  /-- A lookup is about to read the file of its entry. -/
  | read (inside : Bool) (entry : CacheEntry)
  /-- A lookup is about to see whether its entry is still there. -/
  | confirm (inside : Bool) (entry : CacheEntry) (live : Option Fingerprint)
  /-- A lookup is done. -/
  | looked (inside : Bool) (found : Option CacheEntry)
  /-- The query waits for the gate. -/
  | waiting
  /-- A pass is about to look for files. -/
  | discover (start : PassStart)
  /-- A pass is about to fingerprint its files. -/
  | snapshot (start : PassStart) (files : List FilePath)
  /-- The engine of a pass checks the files. -/
  | check (start : PassStart) (files : List FilePath)
      (fingerprints : List (FilePath × Fingerprint))
  /-- A pass is about to be published. -/
  | publish (start : PassStart) (pass : Pass)
  /-- A pass is done; or it is lost. -/
  | passed (pass : Option Pass)
  | answered (answer : Answer)
  deriving Inhabited

/-- Where a query starts. -/
def Query.start : Query → Stage
  | .document _ => .lookup false
  | .workspace => .waiting

/-- How far a stage is from the answer at most. -/
def Stage.rank : Stage → Nat
  | .lookup false => 14
  | .read false _ => 13
  | .confirm false _ _ => 12
  | .looked false _ => 11
  | .waiting => 10
  | .lookup true => 9
  | .read true _ => 8
  | .confirm true _ _ => 7
  | .looked true _ => 6
  | .discover _ => 5
  | .snapshot _ _ => 4
  | .check _ _ _ => 3
  | .publish _ _ => 2
  | .passed _ => 1
  | .answered _ => 0

/-- Whether a query at a stage is inside the gate. -/
def Stage.isInside : Stage → Bool
  | .lookup inside | .read inside _ | .confirm inside _ _ | .looked inside _ => inside
  | .discover _ | .snapshot _ _ | .check _ _ _ | .publish _ _ | .passed _ => true
  | .waiting | .answered _ => false

namespace Orchestrator

/-- The part of the program that tells of queries. -/
def logTarget : String := "sift::orchestrator"

/-! ### Events -/

/-- A document was opened. -/
def opened (o : Orchestrator) (d : DocumentUri) (version : Int) : Orchestrator :=
  { o with versions := o.versions.opened d version }

/-- A document was changed: what is known of it is void, be its file as it was. -/
def changed (o : Orchestrator) (d : DocumentUri) (version : Int) : Orchestrator :=
  { o with cache := o.cache.void d, versions := o.versions.changed d version }

/-- A document was closed. -/
def closed (o : Orchestrator) (d : DocumentUri) : Orchestrator :=
  { o with versions := o.versions.closed d }

/-- Files have changed on disk. -/
def watched (o : Orchestrator) (changes : List (DocumentUri × FileChange)) : Orchestrator :=
  { o with
    cache := changes.foldl (fun cache (d, change) =>
      match change with
      | .changed | .deleted => cache.void d
      | .created => cache) o.cache }

/-- The configuration has changed: nothing that is known holds. -/
def configurationChanged (o : Orchestrator) : Orchestrator × Log :=
  ({ o with cache := o.cache.voidAll },
    [{ level := .info, target := logTarget
       message := "configuration changed, dropping every cached result" }])

/-- Another setup takes the place of the one before, and nothing that is known holds. -/
def reconfigure (o : Orchestrator) (setup : Setup) : Orchestrator × Log :=
  ({ o with setup, cache := o.cache.voidAll },
    [{ level := .info, target := logTarget, message := "analysis setup replaced"
       fields := [("engine", .text setup.engine.name)] }])

/-! ### Queries -/

/-- Whether a pass could find a document, as far as its name can tell. -/
def couldBeAnalysed (o : Orchestrator) (d : DocumentUri) : Bool :=
  d.toPath?.any o.setup.sources.covers

/-- The answer about a document, as findings are shown now. -/
def documentAnswer (o : Orchestrator) (findings : List Finding) : Answer :=
  .document (o.setup.presenter.presentAll findings)

/-- A pass begins. The epoch is noted before the pass looks for files, so that whatever is
made void from now on stays void. -/
def beginPass (o : Orchestrator) : Orchestrator × Stage :=
  ({ o with passes := o.passes + 1 },
    .discover ⟨o.setup, o.cache.beginPass, o.passes + 1⟩)

/-- The documents that no longer have issues after a pass; none are known after an incomplete
one. -/
def cleared (o : Orchestrator) (pass : Pass) : List DocumentUri :=
  if pass.isComplete then o.reported.filter fun d => !pass.groups.contains d else []

/-- The documents that are shown with issues after a pass is reported. -/
def reportedAfter (o : Orchestrator) (pass : Pass) : List DocumentUri :=
  if pass.isComplete then pass.groups.documents
  else pass.groups.documents.foldl (fun known d => DocumentUri.insertSorted d known) o.reported

/-- What a report says of a document. -/
def item (o : Orchestrator) (d : DocumentUri) (findings : List Finding) : WorkspaceItem :=
  ⟨d, o.versions.get? d, o.setup.presenter.presentAll findings⟩

/-- The report of a pass: the documents with issues, and then those that have them no
longer. -/
def report (o : Orchestrator) (pass : Pass) : List WorkspaceItem :=
  pass.groups.entries.map (fun (d, findings) => o.item d findings) ++
    (o.cleared pass).map fun d => o.item d []

/-- What is told of a report. -/
def reportLog (o : Orchestrator) (pass : Pass) : LogRecord :=
  let issues := pass.groups.entries.foldl (fun n (_, findings) => n + findings.length) 0
  { level := .info, target := logTarget
    message := "reported " ++ toString pass.groups.size ++ " files with " ++ toString issues ++
      " issues (" ++ toString (o.cleared pass).length ++ " cleared)" }

/-- What is told of a pass that is lost. -/
def lostLog (number : Nat) : LogRecord :=
  { level := .error, target := logTarget, message := "analysis task failed"
    fields := [("pass", .number number)] }

/-- The answer to a query after the pass that it has run. -/
def concludePass (o : Orchestrator) (q : Query) (pass : Option Pass) :
    Orchestrator × Stage × Log :=
  match q, pass with
  | .document _, none => (o, .answered (o.documentAnswer []), [])
  | .document d, some pass => (o, .answered (o.documentAnswer (pass.findingsOf d)), [])
  | .workspace, none => (o, .answered (.workspace []), [])
  | .workspace, some pass =>
      ({ o with reported := o.reportedAfter pass }, .answered (.workspace (o.report pass)),
        [o.reportLog pass])

/-- The next step of a query, if it needs neither the gate nor the engine. -/
def step (o : Orchestrator) (t : FileTree) (q : Query) : Stage →
    Option (Orchestrator × Stage × Log)
  | .lookup inside =>
      match q with
      | .document d =>
          match o.cache.stored? d with
          | some entry => some (o, .read inside entry, [])
          | none => some (o, .looked inside none, [])
      | .workspace => none
  | .read inside entry =>
      match q with
      | .document d => some (o, .confirm inside entry (Cache.liveFingerprint? t d), [])
      | .workspace => none
  | .confirm inside entry live =>
      match q with
      | .document d => some (o, .looked inside (o.cache.confirm d entry live), [])
      | .workspace => none
  | .looked inside found =>
      match q, found with
      | _, some entry => some (o, .answered (o.documentAnswer entry.findings), [])
      | .document d, none =>
          if inside then
            let (o, stage) := o.beginPass
            some (o, stage, [])
          else if o.couldBeAnalysed d then some (o, .waiting, [])
          else some (o, .answered (o.documentAnswer []), [])
      | .workspace, none => none
  | .discover start =>
      some (o, .snapshot start (start.setup.sources.discover t),
        start.setup.sources.discoveryLog t)
  | .snapshot start files =>
      if files.isEmpty then some (o, .publish start {}, [])
      else some (o, .check start files (Pass.snapshot t files), [])
  | .publish start pass =>
      some ({ o with cache := o.cache.publish t start.epoch pass }, .passed (some pass), [])
  | .passed pass => some (o.concludePass q pass)
  | .waiting | .check _ _ _ | .answered _ => none

/-- A query that has waited enters the gate. -/
def enter (o : Orchestrator) (q : Query) : Orchestrator × Stage :=
  match q with
  | .document _ => (o, .lookup true)
  | .workspace => o.beginPass

/-- The engine of a pass has checked the files. -/
def checked (start : PassStart) (files : List FilePath)
    (fingerprints : List (FilePath × Fingerprint)) (result : CheckResult) : Stage × Log :=
  match Pass.ofResult? start.setup.engine.name files fingerprints result with
  | (some pass, log) => (.publish start pass, log)
  | (none, log) => (.passed none, log ++ [lostLog start.number])

/-- Steps of a query with nothing between them, up to the engine's check or the answer; the
gate is open when the query comes to it. Every step brings the query nearer to its answer, so
that its rank is fuel enough. -/
def proceed (o : Orchestrator) (t : FileTree) (q : Query) :
    (fuel : Nat) → Stage → Orchestrator × Stage × Log
  | 0, stage => (o, stage, [])
  | fuel + 1, stage =>
      match stage with
      | .waiting =>
          let (o, next) := o.enter q
          proceed o t q fuel next
      | _ =>
          match o.step t q stage with
          | none => (o, stage, [])
          | some (o, next, log) =>
              let (o, last, more) := proceed o t q fuel next
              (o, last, log ++ more)

/-- The steps of a query up to where it waits for the gate, or to its answer. -/
def approach (o : Orchestrator) (t : FileTree) (q : Query) :
    (fuel : Nat) → Stage → Orchestrator × Stage × Log
  | 0, stage => (o, stage, [])
  | fuel + 1, stage =>
      match o.step t q stage with
      | none => (o, stage, [])
      | some (o, next, log) =>
          let (o, last, more) := approach o t q fuel next
          (o, last, log ++ more)

/-- What is shown of an orchestrator when it is printed. -/
def describe (o : Orchestrator) : String :=
  "Orchestrator \x7b cached: " ++ toString o.cache.size ++ ", passes: " ++ toString o.passes ++
    ", .. \x7d"

end Orchestrator

end PullDiagnostics
