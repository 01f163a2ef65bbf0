import PullDiagnostics.Program
import PullDiagnostics.Server.Site

/-!
# The command line

Reads what the client sends on the standard input and writes what it is sent to the standard
output; the log goes to the standard error. The machine that the server sees has no files.
-/

namespace PullDiagnostics

/-- Writes messages in their frames. -/
def writeMessages (out : IO.FS.Stream) (messages : List Json) : IO Unit := do
  for m in messages do
    out.write ⟨(Protocol.Frame.write m).toArray⟩
  out.flush

/-- Writes the records that a filter lets through. -/
def writeLog (filter : LogFilter) (err : IO.FS.Stream) (log : Log) : IO Unit := do
  for r in log do
    if filter.admits r.target.toList r.fieldNames r.level then
      err.putStrLn (r.level.name ++ " " ++ r.target ++ ": " ++ r.message)

/-- How many bytes are read at once. -/
def chunkSize : USize := 65536

/-- Serves a client until it closes its side. -/
partial def serve (filter : LogFilter) (input out err : IO.FS.Stream) (site : Site) :
    IO Unit := do
  let chunk ← input.read chunkSize
  let (messages, site) := if chunk.isEmpty then site.finish else site.read chunk.toList
  writeMessages out messages
  let (log, site) := site.takeLog
  writeLog filter err log
  if chunk.isEmpty then return
  serve filter input out err site

end PullDiagnostics

open PullDiagnostics

def main (arguments : List String) : IO UInt32 := do
  let out ← IO.getStdout
  let err ← IO.getStderr
  match Program.start arguments (← IO.getEnv "SIFT_LOG") with
  | .ends code stdout stderr =>
      out.putStr stdout
      err.putStr stderr
      return code.toUInt32
  | .serves (.connect port) _ =>
      err.putStr (Program.faultLine (Program.connectFailure port))
      return 1
  | .serves (.listen port) _ =>
      err.putStr (Program.faultLine (Program.listenFailure port))
      return 1
  | .serves .standardStreams filter =>
      serve filter (← IO.getStdin) out err {}
      return 0
