import PullDiagnostics.Protocol.Frame
import PullDiagnostics.Server.Jobs

/-!
# Connections

A client speaks to its server over a stream of bytes. Bytes are kept until a frame is complete
and are then taken as a message. What cannot be read is told to the client, and nothing more
is read after it.

A message is done with before the next one is taken, unless an engine needs time for it. Then it
stays as a job, and the server takes what comes meanwhile, as long as it does not have too many
jobs. Time passes only where the client waits.
-/

namespace PullDiagnostics

open Protocol

/-- A server and what has come from its client. -/
structure Connection where
  server : Server := {}
  /-- The bytes of frames that are not complete or not taken. -/
  unread : Bytes := []
  /-- Whether what comes is read. -/
  isReading : Bool := true
  /-- The requests to the client that it has not answered. -/
  unanswered : List RequestId := []
  /-- What the server has begun, in order. -/
  jobs : List Job := []
  deriving Inhabited

namespace Connection

/-- The number of jobs with which a server takes no more messages. -/
def mostJobs : Nat := 4

/-- The response to what cannot be read. -/
def complaint (e : ResponseError) : Json :=
  (⟨.null, .error e⟩ : Response).toJson

/-- A connection that reads no more. -/
def close (c : Connection) : Connection :=
  { c with isReading := false }

/-- What is sent to the client after a request. -/
def written (handled : Handled) : List Json :=
  handled.sent.map Request.toJson ++ (handled.response.map Response.toJson).toList

/-- The response to a request, if it has an identity. -/
def replyTo (id : Option RequestId) (outcome : Except ResponseError Json) : List Json :=
  written { response := id.map (⟨·, outcome⟩) }

/-- Notes what was asked of the client. -/
def asked (c : Connection) (sent : List Request) : Connection :=
  { c with unanswered := c.unanswered ++ sent.filterMap (·.id) }

/-- Whether messages are left where they are. -/
def isBusy (c : Connection) : Bool :=
  !c.isReading || mostJobs ≤ c.jobs.countP (·.isOwn)

/-- Whether a query is inside the gate. -/
def isGateTaken (c : Connection) : Bool :=
  c.jobs.any (·.isInside)

/-- Whether the reply to a request of the same identity is still to come. -/
def isRepeated (c : Connection) (r : Request) : Bool :=
  c.server.phase = .serving && (Method.find? r.method).isSome && r.id.isSome &&
    c.jobs.any (·.id = r.id)

/-- What a request asks for, if it may take time. -/
def lasting? (c : Connection) (r : Request) : Option Call :=
  if c.server.phase ≠ .serving then none
  else
    match Method.find? r.method with
    | none => none
    | some m =>
        if m.isRequest = r.isNotification then none
        else
          match m.read r.params with
          | .ok (some (.diagnose q)) => some (.diagnose q)
          | .ok (some .ready) => some .ready
          | _ => none

/-- The request that a message takes back. -/
def takenBack? (r : Request) : Option RequestId :=
  if r.method = Method.cancelName && r.isNotification then
    ((r.params.getD .null).get? "id").bind RequestId.read?
  else none

end Connection

namespace Environment

variable {σ : Type}

/-- Where the server of a connection is kept. -/
def serverPlace (place : Place σ Connection) : Place σ Server where
  get s := (place.get s).server
  set server s := place.set { place.get s with server } s

/-! ### Jobs -/

/-- Puts jobs in the place of those that there are. -/
def setJobs (place : Place σ Connection) (jobs : List Job) (s : σ) : σ :=
  place.set { place.get s with jobs } s

/-- Keeps a job. -/
def addJob (place : Place σ Connection) (j : Job) (s : σ) : σ :=
  setJobs place ((place.get s).jobs ++ [j]) s

/-- Lets a query go on from a stage, with the gate open, and keeps it if it takes time. -/
def goOn (env : Environment σ) (place : Place σ Connection) (id : Option RequestId) (q : Query)
    (stage : Stage) (s : σ) : List Json × σ :=
  match env.pursue (orchestratorPlace (serverPlace place)) q stage s with
  | (.inl answer, s) => (Connection.replyTo id (.ok answer.toJson), s)
  | (.inr check, s) => ([], addJob place ⟨id, .checking q check⟩ s)

/-- Begins with a query. Where the gate is taken it comes as far as there. -/
def ask (env : Environment σ) (place : Place σ Connection) (id : Option RequestId) (q : Query)
    (s : σ) : List Json × σ :=
  match (place.get s).server.session.orchestrator with
  | none => (Connection.replyTo id (.ok (emptyAnswer q).toJson), s)
  | some _ =>
      if !(place.get s).isGateTaken then env.goOn place id q q.start s
      else
        match env.update (orchestratorPlace (serverPlace place))
          (fun o => o.approach (env.tree s) q q.start.rank q.start) s with
        | (.answered answer, s) => (Connection.replyTo id (.ok answer.toJson), s)
        | (_, s) => ([], addJob place ⟨id, .waiting q⟩ s)

/-- Takes up jobs again, one after the other: the first one that waits for the gate enters it if
it is open. -/
def takeUp (env : Environment σ) (place : Place σ Connection) : List Job → σ → List Json × σ
  | [], s => ([], s)
  | j :: rest, s =>
      let (written, s) :=
        match j.task, (place.get s).isGateTaken with
        | .waiting q, false => env.goOn place j.id q .waiting s
        | _, _ => ([], addJob place j s)
      let (more, s) := takeUp env place rest s
      (written ++ more, s)

/-- Goes on with jobs of which one may have left the gate. -/
def resume (env : Environment σ) (place : Place σ Connection) (jobs : List Job) (s : σ) :
    List Json × σ :=
  if jobs.any (·.isInside) then ([], setJobs place jobs s)
  else env.takeUp place jobs (setJobs place [] s)

/-- Sends requests to the client, and notes those that it has to answer. -/
def send (place : Place σ Connection) (sent : List Request) (s : σ) : List Json × σ :=
  (sent.map Request.toJson, place.set ((place.get s).asked sent) s)

/-- Ends a job at its time. -/
def complete (env : Environment σ) (place : Place σ Connection) (j : Job) (s : σ) :
    List Json × σ :=
  let queries := orchestratorPlace (serverPlace place)
  match j.task with
  | .waiting _ => ([], s)
  | .checking q check =>
      let (answer, s) :=
        env.conclude queries q check.start check.files check.fingerprints check.result s
      (Connection.replyTo j.id (.ok answer.toJson), s)
  | .abandoned check => ([], env.publishAlone queries check s)
  | .greeting engine version _ =>
      let (sent, s) := env.welcome (serverPlace place) engine version s
      send place sent s

/-- The client is ready. It is welcomed at once if the engine takes no time to tell its
version. -/
def greeted (env : Environment σ) (place : Place σ Connection) (s : σ) : List Json × σ :=
  match (place.get s).server.session.orchestrator with
  | none => ([], s)
  | some o =>
      let (version, later) := env.version o.setup.engine s
      let due := env.clock.get later
      let j : Job := ⟨none, .greeting o.setup.engine.name version due⟩
      if due = env.clock.get s then env.complete place j later
      else ([], addJob place j (env.clock.set (env.clock.get s) later))

/-- Takes back the requests of a kind that are not done. -/
def takeBack (env : Environment σ) (place : Place σ Connection) (isMeant : RequestId → Bool)
    (s : σ) : List Json × σ :=
  let jobs := (place.get s).jobs
  let meant (j : Job) : Bool := j.id.any isMeant
  let written := (jobs.filter meant).flatMap fun j => Connection.replyTo j.id (.error .canceled)
  let (more, s) :=
    env.resume place (jobs.filterMap fun j => if meant j then j.abandoned? else some j) s
  (written ++ more, s)

/-! ### Messages -/

/-- Takes a request, and says what is sent to the client. -/
def takeRequest (env : Environment σ) (place : Place σ Connection) (r : Request) (s : σ) :
    List Json × σ :=
  let c := place.get s
  if c.isRepeated r then (Connection.replyTo r.id (.error .invalidRequest), s)
  else
    match c.lasting? r with
    | some (.diagnose q) => env.ask place r.id q s
    | some _ => env.greeted place s
    | none =>
        match env.receive (serverPlace place) r s with
        | (none, s) => ([], place.set (place.get s).close s)
        | (some handled, s) =>
            let s := place.set ((place.get s).asked handled.sent) s
            let (more, s) :=
              if r.method = Method.exitName then env.takeBack place (fun _ => true) s
              else
                match Connection.takenBack? r with
                | some id => env.takeBack place (· = id) s
                | none => ([], s)
            (Connection.written handled ++ more, s)

/-- Takes a message, and says what is sent to the client. -/
def take (env : Environment σ) (place : Place σ Connection) (m : Message) (s : σ) :
    List Json × σ :=
  match m with
  | .request r => env.takeRequest place r s
  | .response r =>
      let c := place.get s
      if c.unanswered.contains r.id then
        let c := { c with unanswered := c.unanswered.filter (· != r.id) }
        ([], env.replied r.outcome (place.set c s))
      else ([], s)

/-- Takes the messages that are complete. Every frame has a byte, so that the number of bytes
is fuel enough. -/
def takeAll (env : Environment σ) (place : Place σ Connection) :
    (fuel : Nat) → σ → List Json × σ
  | 0, s => ([], s)
  | fuel + 1, s =>
      let c := place.get s
      let goOn (rest : Bytes) (s : σ) : List Json × σ :=
        takeAll env place fuel (place.set { place.get s with unread := rest } s)
      if c.isBusy then ([], s)
      else
        match Frame.read c.unread with
        | .unfinished _ => ([], s)
        | .malformed e => ([Connection.complaint e], place.set c.close s)
        | .blank rest => goOn rest s
        | .message m rest =>
            let (written, s) := env.take place m s
            let (more, s) := goOn rest s
            (written ++ more, s)

/-- Bytes come from the client. -/
def feed (env : Environment σ) (place : Place σ Connection) (bytes : Bytes) (s : σ) :
    List Json × σ :=
  let c := place.get s
  let unread := c.unread ++ bytes
  env.takeAll place (unread.length + 1) (place.set { c with unread } s)

/-! ### Time -/

/-- Lets time pass until the next job is done, and takes the messages that were left for it. -/
def elapse (env : Environment σ) (place : Place σ Connection) (s : σ) : List Json × σ :=
  let jobs := (place.get s).jobs
  match Job.next? jobs with
  | none => ([], s)
  | some (due, j) =>
      let (written, s) := env.complete place j (env.clock.set (max due (env.clock.get s)) s)
      let (resumed, s) := env.resume place (Job.without jobs due) s
      let (more, s) := env.feed place [] s
      (written ++ resumed ++ more, s)

/-- Lets time pass until nothing is left to be done, for as many jobs as the fuel. -/
def elapseAll (env : Environment σ) (place : Place σ Connection) :
    (fuel : Nat) → σ → List Json × σ
  | 0, s => ([], s)
  | fuel + 1, s =>
      let (written, s) := env.elapse place s
      let (more, s) := elapseAll env place fuel s
      (written ++ more, s)

/-- Lets time pass until nothing is left to be done. A job is there, or comes with a frame. -/
def settle (env : Environment σ) (place : Place σ Connection) (s : σ) : List Json × σ :=
  let c := place.get s
  env.elapseAll place (c.jobs.length + c.unread.length) s

/-- Nothing more comes. A frame that is not complete cannot be read. -/
def breakOff (place : Place σ Connection) (s : σ) : List Json × σ :=
  let c := place.get s
  match c.isBusy, Frame.read c.unread with
  | false, .unfinished (_ :: _) => ([Connection.complaint .unparsable], place.set c.close s)
  | _, _ => ([], s)

/-- The client has closed its side; what it has asked for is still done. -/
def hangUp (env : Environment σ) (place : Place σ Connection) (s : σ) : List Json × σ :=
  let (first, s) := breakOff place s
  let (written, s) := env.settle place s
  let (last, s) := breakOff place s
  (first ++ written ++ last, place.set (place.get s).close s)

end Environment

end PullDiagnostics
