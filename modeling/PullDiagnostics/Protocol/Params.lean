import PullDiagnostics.DocumentUri
import PullDiagnostics.Orchestrator.Basic
import PullDiagnostics.Protocol.Capabilities

/-!
# Parameters of methods

What a client sends along with the methods that are served. Each kind of parameters has a
shape; what is read from parameters of the right shape is found in their plain form.
-/

namespace PullDiagnostics.Protocol

/-- What a client says of itself at the start. -/
structure SessionStart where
  workspaceFolders : List Url := []
  rootUri : Option Url := none
  initializationOptions : Option Json := none
  /-- Whether the client takes requests to watch files. -/
  watchesOnRequest : Bool := false
  deriving Inhabited

namespace Shape

open Member

/-! ### Shapes -/

/-- A document was opened. -/
def opened : Shape :=
  .record "DidOpenTextDocumentParams" [needed "textDocument" documentText]

/-- A document was changed. -/
def changed : Shape :=
  .record "DidChangeTextDocumentParams"
    [needed "textDocument" documentVersion, needed "contentChanges" (.list textChange)]

/-- A document was saved. -/
def saved : Shape :=
  .record "DidSaveTextDocumentParams" [needed "textDocument" documentId, optional "text" .text]

/-- A document was closed. -/
def closed : Shape :=
  .record "DidCloseTextDocumentParams" [needed "textDocument" documentId]

/-- Files have changed. -/
def watched : Shape :=
  .record "DidChangeWatchedFilesParams"
    [needed "changes" (.list (.record "FileEvent" [needed "uri" .url, needed "type" int32]))]

/-- A client sends settings. -/
def configured : Shape :=
  .record "DidChangeConfigurationParams" [needed "settings" .anything]

/-- What a client says at the start. -/
def sessionStart : Shape :=
  .record "InitializeParams"
    [optional "processId" nat32,
     optional "rootPath" .text,
     spare "rootUri" .url,
     optional "initializationOptions" .anything,
     needed "capabilities" clientCapabilities,
     spare "trace" (.word ["off", "messages", "verbose"]),
     optional "workspaceFolders"
      (.list (.record "WorkspaceFolder" [needed "uri" .url, needed "name" .text])),
     optional "clientInfo"
      (.record "ClientInfo" [needed "name" .text, optional "version" .text]),
     optional "locale" .text]

/-- The client is ready. -/
def ready : Shape :=
  .record "InitializedParams" []

/-- A client asks for a document. -/
def documentQuery : Shape :=
  .combined "DocumentDiagnosticParams"
    [needed "textDocument" documentId, optional "identifier" .text,
     optional "previousResultId" .text]
    [workDone, partialResult]

/-- A client asks for the workspace. -/
def workspaceQuery : Shape :=
  .combined "WorkspaceDiagnosticParams"
    [optional "identifier" .text,
     needed "previousResultIds"
      (.list (.record "PreviousResultId" [needed "uri" .url, needed "value" .text]))]
    [workDone, partialResult]

end Shape

namespace Params

/-! ### What is read from them -/

/-- A member of a plain form. -/
def member (key : String) (j : Json) : Json :=
  (j.get? key).getD .null

/-- The URL that a value is. -/
def url? (j : Json) : Option Url :=
  j.asString?.bind fun s => (Url.parse s.toList).toOption

/-- The document that a member names. -/
def document (j : Json) : DocumentUri :=
  .ofUrl ((url? (member "uri" (member "textDocument" j))).getD default)

/-- The version of a document that a member tells. -/
def version (j : Json) : Int :=
  ((member "version" (member "textDocument" j)).asInt?).getD 0

/-- What the number of a change stands for; others are none that matter. -/
def fileChange? (n : Int) : Option FileChange :=
  if n = 1 then some .created
  else if n = 2 then some .changed
  else if n = 3 then some .deleted
  else none

/-- What has happened to a file. -/
def fileEvent? (j : Json) : Option (DocumentUri × FileChange) := do
  let u ← url? (member "uri" j)
  let n ← (member "type" j).asInt?
  let change ← fileChange? n
  some (.ofUrl u, change)

/-- What has happened to files. -/
def fileEvents (j : Json) : List (DocumentUri × FileChange) :=
  ((member "changes" j).asArray?.getD []).filterMap fileEvent?

/-- Whether a client takes requests to watch files. -/
def watchesOnRequest (capabilities : Json) : Bool :=
  let watching := member "didChangeWatchedFiles" (member "workspace" capabilities)
  (member "dynamicRegistration" watching).asBool?.getD false

/-- A value that stands for nothing if it is `null`. -/
def present? (j : Json) : Option Json :=
  if j.isNull then none else some j

/-- What a client says at the start. -/
def sessionStart (j : Json) : SessionStart where
  workspaceFolders :=
    ((member "workspaceFolders" j).asArray?.getD []).filterMap fun folder =>
      url? (member "uri" folder)
  rootUri := url? (member "rootUri" j)
  initializationOptions := present? (member "initializationOptions" j)
  watchesOnRequest := watchesOnRequest (member "capabilities" j)

end Params

end PullDiagnostics.Protocol
