import PullDiagnostics.Orchestrator.Answer
import PullDiagnostics.Server.Environment

/-!
# The server

A server takes requests in phases. At first it takes only the request that starts a session;
then it takes all others, until it is told to shut down; after that it waits for the
notification to exit, and then takes nothing at all. What comes in the wrong phase, or in the
wrong form, is answered with an error if a reply is waited for, and passed over if not.
-/

namespace PullDiagnostics

open Protocol

/-- How far a server has come. -/
inductive Phase where
  | fresh
  | serving
  | shutDown
  | exited
  deriving DecidableEq, Inhabited

/-- A server for one client. -/
structure Server where
  session : Session := {}
  phase : Phase := .fresh
  /-- The number of the next request to the client. -/
  nextRequest : Nat := 0
  deriving Inhabited

/-- What comes of a request: the response to it if there is one, and what else is sent to the
client. -/
structure Handled where
  response : Option Response := none
  sent : List Request := []

namespace Server

/-- Whether the client can be asked for something. -/
def mayAsk (server : Server) : Bool :=
  server.phase = .serving || server.phase = .shutDown

/-- Why a request is refused that comes outside of a session. -/
def refusal : Phase → ResponseError
  | .fresh => .notInitialized
  | _ => .invalidRequest

/-- Asks the client to watch files, if it takes such requests. -/
def askToWatch (server : Server) : Server × List Request × Log :=
  if server.session.watchesOnRequest != some true then (server, [], [])
  else if server.mayAsk then
    ({ server with nextRequest := server.nextRequest + 1 },
      [server.session.watchRequest server.nextRequest], [])
  else (server, [], Session.refusedLog ResponseError.notInitialized.describe)

/-- A server with its session changed. -/
def mapSession (server : Server) (f : Session → Session × Log) : Server × Unit × Log :=
  let (session, log) := f server.session
  ({ server with session }, (), log)

/-- A server with its orchestrator changed, if there is one. -/
def mapOrchestrator (server : Server) (f : Orchestrator → Orchestrator) : Server × Unit × Log :=
  server.mapSession fun session => (session.mapOrchestrator f, [])

end Server

namespace Environment

variable {σ : Type}

/-- Where the orchestrator of a server is kept. -/
def orchestratorPlace (place : Place σ Server) : Place σ Orchestrator where
  get s := (place.get s).session.orchestrator.getD default
  set o s := place.set ((place.get s).mapOrchestrator fun _ => o).1 s

/-- The answer to a query before there is anything to be asked. -/
def emptyAnswer : Query → Answer
  | .document _ => .document []
  | .workspace => .workspace []

/-- Answers a query of a client. -/
def diagnose (env : Environment σ) (place : Place σ Server) (q : Query) (s : σ) : Answer × σ :=
  match (place.get s).session.orchestrator with
  | none => (emptyAnswer q, s)
  | some _ => env.answer (orchestratorPlace place) q s

/-- Tells the client of the engine, and asks it to watch files. -/
def welcome (env : Environment σ) (place : Place σ Server) (engine : String)
    (version : Ending String) (s : σ) : List Request × σ :=
  let (told, log) := Session.versionTold engine version
  let (asked, s) := env.update place Server.askToWatch (env.tell log s)
  (told ++ asked, s)

/-- The client is ready: it is welcomed when the engine has told its version. -/
def greet (env : Environment σ) (place : Place σ Server) (s : σ) : List Request × σ :=
  match (place.get s).session.orchestrator with
  | none => ([], s)
  | some o =>
      let (version, s) := env.version o.setup.engine s
      env.welcome place o.setup.engine.name version s

/-- Does what a client wants. The result is what a client that waits for one is told. -/
def perform (env : Environment σ) (place : Place σ Server) (call : Call) (s : σ) :
    (Json × List Request) × σ :=
  let change (f : Server → Server × Unit × Log) : (Json × List Request) × σ :=
    ((.null, []), (env.update place f s).2)
  match call with
  | .start params =>
      let (_, s) := env.update place (·.mapSession (·.start (env.tree s) params)) s
      ((Session.capabilities, []), s)
  | .ready =>
      let (sent, s) := env.greet place s
      ((.null, sent), s)
  | .shutdown =>
      ((.null, []), env.tell [Session.record .info "shutdown requested" []] s)
  | .diagnose q =>
      let (answer, s) := env.diagnose place q s
      ((answer.toJson, []), s)
  | .opened d version => change (·.mapOrchestrator (·.opened d version))
  | .changed d version => change (·.mapOrchestrator (·.changed d version))
  | .saved _ => ((.null, []), s)
  | .closed d => change (·.mapOrchestrator (·.closed d))
  | .configured settings => change (·.mapSession (·.configured settings))
  | .watched changes => change (·.mapOrchestrator (·.watched changes))

/-- The response that says why a request is refused, if a reply is waited for. -/
def refuse (r : Request) (e : ResponseError) : Handled :=
  { response := r.id.map fun id => ⟨id, .error e⟩ }

/-- Handles a request in the right phase. A request that nobody waits for is passed over, and
so is the other way round, but for the error. -/
def dispatch (env : Environment σ) (place : Place σ Server) (m : Method) (r : Request) (s : σ) :
    Handled × σ :=
  if m.isRequest && r.isNotification then ({}, s)
  else if !m.isRequest && !r.isNotification then (refuse r .invalidRequest, s)
  else
    match m.read r.params with
    | .error e => (refuse r (.invalidParams e.message), s)
    | .ok none => (refuse r .methodNotServed, s)
    | .ok (some call) =>
        let ((result, sent), s) := env.perform place call s
        (⟨r.id.map fun id => ⟨id, .ok result⟩, sent⟩, s)

/-- Puts a server into a phase. -/
def enter (place : Place σ Server) (phase : Phase) (s : σ) : σ :=
  place.set { place.get s with phase } s

/-- Whether a request was answered with a result. -/
def succeeded (handled : Handled) : Bool :=
  handled.response.any (·.outcome.toBool)

/-- Handles a request of which the method is known. What takes back a request comes in every
phase. -/
def handle (env : Environment σ) (place : Place σ Server) (m : Method) (r : Request) (s : σ) :
    Handled × σ :=
  let phase := (place.get s).phase
  if m.name = Method.cancelName then env.dispatch place m r s
  else if m.name = Method.startName then
    if phase = .fresh then
      let (handled, s) := env.dispatch place m r s
      (handled, if succeeded handled then enter place .serving s else s)
    else (refuse r .invalidRequest, s)
  else if phase = .serving then
    env.dispatch place m r (if m.name = Method.shutdownName then enter place .shutDown s else s)
  else (refuse r (Server.refusal phase), s)

/-- Handles a request of a method that nobody knows. The names with a dollar are for
extensions, and requests of them need no response. -/
def handleUnknown (r : Request) : Handled :=
  if "$/".toList.isPrefixOf r.method.toList then {} else refuse r (.methodNotFound r.method)

/-- Takes a request, unless the server has exited. -/
def receive (env : Environment σ) (place : Place σ Server) (r : Request) (s : σ) :
    Option Handled × σ :=
  if (place.get s).phase = .exited then (none, s)
  else if r.method = Method.exitName then (some {}, enter place .exited s)
  else
    match Method.find? r.method with
    | none => (some (handleUnknown r), s)
    | some m =>
        let (handled, s) := env.handle place m r s
        (some handled, s)

/-- Takes the client's reply to a request that was sent to it. -/
def replied (env : Environment σ) (reply : Except ResponseError Json) (s : σ) : σ :=
  env.tell (Session.watchReply reply) s

/-- Takes the same reply to all that was asked of the client. -/
def repliedToAll (env : Environment σ) (reply : Except ResponseError Json) (sent : List Request)
    (s : σ) : σ :=
  (sent.filter (!·.isNotification)).foldl (fun s _ => env.replied reply s) s

end Environment

end PullDiagnostics
