import PullDiagnostics.Orchestrator.Basic
import PullDiagnostics.Protocol.Message
import PullDiagnostics.Protocol.Params
import PullDiagnostics.Settings.File

/-!
# Sessions

What a server keeps for one client. A session starts when the client says what it is and
where its workspace lies; before, there is nothing to be asked. Its roots are those named at
first, while settings may change and with them what is analysed and by what.
-/

namespace PullDiagnostics

open Protocol (SessionStart Request)

/-- What a server keeps for one client. -/
structure Session where
  /-- The engine that settings lead to. -/
  engines : Settings → Engine := fun settings => .command settings.checker
  settings : Settings := {}
  /-- The folders of the workspace, once they are known. -/
  knownRoots : Option (List FilePath) := none
  orchestrator : Option Orchestrator := none
  /-- Whether the client takes requests to watch files, once that is known. -/
  watchesOnRequest : Option Bool := none
  deriving Inhabited

namespace Session

/-- The part of the program that tells of sessions. -/
def logTarget : String := "sift::server"

/-- A record about a session. -/
def record (level : Verbosity) (message : String) (fields : List (String × LogValue) := []) :
    LogRecord :=
  { level, target := logTarget, message, fields }

/-- The folders of the workspace. -/
def roots (s : Session) : List FilePath :=
  s.knownRoots.getD []

/-! ### Setups -/

/-- The setup that settings lead to. Patterns that are none are passed over with all the
others. -/
def setupFor (s : Session) (settings : Settings) : Setup × Log :=
  let engine := s.engines settings
  let presenter := settings.presenter engine.name
  match settings.sources s.roots with
  | .ok sources => (⟨engine, sources, presenter⟩, [])
  | .error e =>
      (⟨engine, SourceSet.withoutExclusions s.roots settings.extensions, presenter⟩,
        [record .warn "ignoring exclude patterns" [("error", .text e.message)]])

/-! ### The start -/

/-- The folders of a workspace that are local, and what is told of the others. -/
def localFolders : List Url → List FilePath × Log
  | [] => ([], [])
  | u :: rest =>
      let (paths, log) := localFolders rest
      match u.toPath? with
      | some p => (p :: paths, log)
      | none =>
          (paths, record .warn "workspace folder is not a local path, skipping"
            [("uri", .text u.render)] :: log)

/-- The folders that a client names; the older way to name one counts if there are none. -/
def rootsOf (p : SessionStart) : List FilePath × Log :=
  let (folders, log) := localFolders p.workspaceFolders
  if folders.isEmpty then ((p.rootUri.bind Url.toPath?).toList, log) else (folders, log)

/-- How paths are shown in the log. -/
def showPaths (paths : List FilePath) : String :=
  "[" ++ ", ".intercalate (paths.map fun p => Text.quotedBytes p.bytes) ++ "]"

/-- The settings at the start: those of the file in the first folder, and over them what the
client sends. -/
def startSettings (t : FileTree) (roots : List FilePath) (options : Option Json) :
    Settings × Log :=
  let (settings, log) := match roots with
    | root :: _ => Settings.load t root
    | [] => ({}, [])
  match options with
  | none => (settings, log)
  | some layer =>
      match settings.overlay layer with
      | .ok settings => (settings, log)
      | .error e =>
          (settings, log ++ [record .warn "ignoring invalid initializationOptions"
            [("error", .text e.message)]])

/-- A client says what it is. -/
def start (s : Session) (t : FileTree) (p : SessionStart) : Session × Log :=
  let (roots, log) := rootsOf p
  let warning := if roots.isEmpty then
      [record .warn "no workspace folders, analysis will find no files"] else []
  let told := record .info "initializing" [("roots", .text (showPaths roots))]
  let (settings, more) := startSettings t roots p.initializationOptions
  let s : Session :=
    { s with
      settings, knownRoots := some (s.knownRoots.getD roots)
      watchesOnRequest := some (s.watchesOnRequest.getD p.watchesOnRequest) }
  let (setup, warnings) := s.setupFor settings
  let log := log ++ warning ++ [told] ++ more ++ warnings
  match s.orchestrator with
  | none => ({ s with orchestrator := some { setup } }, log)
  | some _ =>
      (s, log ++ [record .warn "initialize received twice, keeping the first session"])

/-- What a client is told of the server. -/
def capabilities : Json :=
  .ofMembers [
    ("capabilities", .ofMembers [
      ("diagnosticProvider", .ofMembers [("identifier", .string "sift"),
        ("interFileDependencies", .bool true), ("workspaceDiagnostics", .bool true)]),
      ("textDocumentSync", .nat 1)]),
    ("serverInfo", .ofMembers [("name", .string "sift"), ("version", .string "0.1.0")])]

/-! ### Notices to the client -/

/-- A message for the client's log; the lower the number, the graver. -/
def logMessage (kind : Nat) (message : String) : Request :=
  { method := "window/logMessage"
    params := some (.ofMembers [("type", .nat kind), ("message", .string message)]) }

/-- What is made of the version that an engine tells. -/
def versionTold (engine : String) : Ending String → List Request × Log
  | .done version =>
      ([logMessage 3 (engine ++ " " ++ version)],
        [record .info "analysis engine ready"
          [("engine", .text engine), ("version", .text version)]])
  | .failed e =>
      ([logMessage 1 ("failed to load " ++ engine ++ ": " ++ e.message)],
        [record .error "cannot query analysis engine version"
          [("engine", .text engine), ("error", .text e.message)]])
  | .panicked _ | .lost =>
      ([], [record .error "engine version task failed" [("engine", .text engine)]])

/-- The pattern of the files with an extension. -/
def watchPattern (extension : String) : Json :=
  .ofMembers [("globPattern",
    .string ("**/*." ++ String.ofList (extension.toList.dropWhile (· = '.'))))]

/-- The request that asks the client to watch the files of the settings. -/
def watchRequest (s : Session) (number : Nat) : Request :=
  { method := "client/registerCapability"
    params := some (.ofMembers [("registrations", .array [.ofMembers [
      ("id", .string "sift-watched-sources"),
      ("method", .string "workspace/didChangeWatchedFiles"),
      ("registerOptions", .ofMembers [
        ("watchers", .array (s.settings.extensions.map watchPattern))])]])])
    id := some (.number number) }

/-- What is told when the client refuses to watch. -/
def refusedLog (reason : String) : Log :=
  [record .warn "client refused watcher registration" [("error", .text reason)]]

/-- What is made of the client's reply to the request to watch: its result is nothing. -/
def watchReply : Except Protocol.ResponseError Json → Log
  | .ok .null => []
  | .ok j =>
      refusedLog ("Parse error: " ++ (DecodeError.invalidType j "unit").message)
  | .error e => refusedLog e.describe

/-! ### Events -/

/-- A session with its orchestrator changed, if there is one. -/
def mapOrchestrator (s : Session) (f : Orchestrator → Orchestrator) : Session :=
  { s with orchestrator := s.orchestrator.map f }

/-- A client sends settings. What is no object only tells that something has changed. -/
def configured (s : Session) (layer : Json) : Session × Log :=
  match s.orchestrator with
  | none => (s, [])
  | some o =>
      let dropped (log : Log) : Session × Log :=
        let (o, more) := o.configurationChanged
        ({ s with orchestrator := some o }, log ++ more)
      match layer with
      | .object _ =>
          match s.settings.overlay layer with
          | .ok settings =>
              let (setup, warnings) := s.setupFor settings
              let (o, told) := o.reconfigure setup
              ({ s with settings, orchestrator := some o }, warnings ++ told)
          | .error e =>
              dropped [record .warn "ignoring invalid settings" [("error", .text e.message)]]
      | _ => dropped []

end Session

end PullDiagnostics
