import PullDiagnostics.Server.Connection

/-!
# Sites

A machine with files, on which a server and its client are all there is. The only engines are
commands. What the server tells is kept until it is taken. Nothing comes from the client before
the server has done what it was asked for.
-/

namespace PullDiagnostics

/-- A machine with a server on it. -/
structure Site where
  tree : FileTree := {}
  log : Log := []
  /-- How much time has passed, in nanoseconds. -/
  clock : Nat := 0
  connection : Connection := {}
  deriving Inhabited

namespace Site

/-- Keeps records. -/
def tell (log : Log) (s : Site) : Site :=
  { s with log := s.log ++ log }

/-- Has a command check files. -/
def check (engine : Engine) (files : List FilePath) (s : Site) : CheckResult × Site :=
  match engine with
  | .command checker =>
      let (result, log, tree) := checker.check s.tree Checker.temporary files
      let time := checker.duration s.tree Checker.temporary checker.args files
      (result, tell log { s with tree, clock := s.clock + time })
  | .provided _ _ => (⟨[], .lost⟩, s)

/-- Asks a command for its version. -/
def version (engine : Engine) (s : Site) : Ending String × Site :=
  match engine with
  | .command checker =>
      let time := checker.duration s.tree Checker.temporary checker.versionArgs []
      let s := { s with clock := s.clock + time }
      match checker.version s.tree with
      | .ok text => (.done text, s)
      | .error e => (.failed e, s)
  | .provided _ _ => (.lost, s)

/-- What the server can do. -/
def environment : Environment Site where
  tree := Site.tree
  tell := tell
  check := check
  version := version
  clock := ⟨Site.clock, fun clock s => { s with clock }⟩

/-- Where the connection is. -/
def place : Place Site Connection where
  get := Site.connection
  set connection s := { s with connection }

/-- Bytes come from the client, and the server does all that they ask for. -/
def read (bytes : Bytes) (s : Site) : List Json × Site :=
  let (written, s) := environment.feed place bytes s
  let (more, s) := environment.settle place s
  (written ++ more, s)

/-- The client has closed its side. -/
def finish (s : Site) : List Json × Site :=
  environment.hangUp place s

/-- Takes the records kept so far. -/
def takeLog (s : Site) : Log × Site :=
  (s.log, { s with log := [] })

end Site

end PullDiagnostics
