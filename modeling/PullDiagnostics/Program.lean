import PullDiagnostics.CommandLine
import PullDiagnostics.LogFilter

/-!
# The program's start

What the command line and the environment make the program do: say something and end, or
serve.
-/

namespace PullDiagnostics.Program

/-- What the program does. -/
inductive Start where
  /-- It writes something and ends with a number. -/
  | ends (code : Nat) (stdout stderr : String)
  | serves (transport : Transport) (filter : LogFilter)
  deriving Inhabited

/-- The line that tells of a fault at the start. -/
def faultLine (message : String) : String :=
  "Error: " ++ message ++ "\n"

/-- The line that tells of a wrong command line. -/
def usageLine (e : UsageError) : String :=
  "error: " ++ e.message ++ "\n"

/-- What is said when there is nobody to connect to. -/
def connectFailure (port : Nat) : String :=
  "failed to connect to localhost:" ++ toString port

/-- What is said when a port cannot be listened on. -/
def listenFailure (port : Nat) : String :=
  "failed to listen on 127.0.0.1:" ++ toString port

/-- What the program does, given its arguments and the filter in its environment. -/
def start (arguments : List String) (environment : Option String) : Start :=
  match CommandLine.parse arguments with
  | .error e => .ends 2 "" (usageLine e)
  | .ok .help => .ends 0 CommandLine.helpText ""
  | .ok .version => .ends 0 CommandLine.versionText ""
  | .ok (.serve transport directive) =>
      match LogFilter.choose directive environment with
      | .error message => .ends 1 "" (faultLine message)
      | .ok filter => .serves transport filter

end PullDiagnostics.Program
