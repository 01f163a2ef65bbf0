import PullDiagnostics.Protocol.Feature
import PullDiagnostics.Protocol.Message
import PullDiagnostics.Protocol.Params

/-!
# Methods

The methods of the protocol. Those that the server serves are read together with their
parameters into a *call*, which says what the client wants. Of the others only the names are
known, whether a reply is waited for, and what the parameters have to look like.
-/

namespace PullDiagnostics.Protocol

/-- What a client wants. -/
inductive Call where
  | start (params : SessionStart)
  | ready
  | shutdown
  | diagnose (q : Query)
  | opened (d : DocumentUri) (version : Int)
  | changed (d : DocumentUri) (version : Int)
  | saved (d : DocumentUri)
  | closed (d : DocumentUri)
  | configured (settings : Json)
  | watched (changes : List (DocumentUri × FileChange))
  deriving Inhabited

/-- Why the parameters of a method are not what it takes. -/
inductive ParamsError where
  | missing
  | unexpected (params : Json)
  | invalid (e : DecodeError)

/-- What is said of parameters that are not what a method takes. -/
def ParamsError.message : ParamsError → String
  | .missing => "Missing params field"
  | .unexpected params => "Unexpected params: " ++ params.render
  | .invalid e => e.message

/-- A method. -/
structure Method where
  name : String
  /-- Whether a client waits for a reply. -/
  isRequest : Bool
  /-- How the call is read from the parameters; methods that are not served have no call. -/
  read : Option Json → Except ParamsError (Option Call)

namespace Method

/-- A method that takes parameters of a shape. -/
def withParams (name : String) (isRequest : Bool) (shape : Shape) (call : Json → Call) :
    Method where
  name := name
  isRequest := isRequest
  read
    | none => .error .missing
    | some j => ((shape.of j).mapError .invalid).map fun plain => some (call plain)

/-- A method that takes none. -/
def withoutParams (name : String) (isRequest : Bool) (call : Call) : Method where
  name := name
  isRequest := isRequest
  read
    | none => .ok (some call)
    | some j => .error (.unexpected j)

/-- A method that is not served, but whose parameters are looked at. -/
def unserved (isRequest : Bool) (name : String) (shape : Shape) : Method where
  name := name
  isRequest := isRequest
  read
    | none => .error .missing
    | some j => ((shape.of j).mapError .invalid).map fun _ => none

/-- The method that starts a session. -/
def startName : String := "initialize"

/-- The method that ends a session. -/
def shutdownName : String := "shutdown"

/-- The method that ends the server. -/
def exitName : String := "exit"

/-- The method that takes back a request. It is no request itself and does nothing to what is
done already. -/
def cancelName : String := "$/cancelRequest"

/-- The methods that are served. -/
def served : List Method :=
  [withParams startName true .sessionStart fun j => .start (Params.sessionStart j),
   withParams "initialized" false .ready fun _ => .ready,
   withoutParams shutdownName true .shutdown,
   withParams "textDocument/diagnostic" true .documentQuery fun j =>
     .diagnose (.document (Params.document j)),
   withParams "workspace/diagnostic" true .workspaceQuery fun _ => .diagnose .workspace,
   withParams "textDocument/didOpen" false .opened fun j =>
     .opened (Params.document j) (Params.version j),
   withParams "textDocument/didChange" false .changed fun j =>
     .changed (Params.document j) (Params.version j),
   withParams "textDocument/didSave" false .saved fun j => .saved (Params.document j),
   withParams "textDocument/didClose" false .closed fun j => .closed (Params.document j),
   withParams "workspace/didChangeConfiguration" false .configured fun j =>
     .configured (Params.member "settings" j),
   withParams "workspace/didChangeWatchedFiles" false .watched fun j =>
     .watched (Params.fileEvents j)]

/-- The names of the notifications that are known but not served. -/
def otherNotifications : List String :=
  ["textDocument/willSave", "workspace/didChangeWorkspaceFolders", "workspace/didCreateFiles",
   "workspace/didRenameFiles", "workspace/didDeleteFiles", cancelName]

/-- All methods but the one that ends the server. -/
def all : List Method :=
  served ++ Shape.features.map (fun (name, shape) => unserved true name shape) ++
    otherNotifications.map (unserved false · .anything)

/-- The method of a name, but for the one that ends the server. -/
def find? (name : String) : Option Method :=
  all.find? fun m => m.name = name

end Method

end PullDiagnostics.Protocol
