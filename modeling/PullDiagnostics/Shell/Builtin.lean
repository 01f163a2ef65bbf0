import PullDiagnostics.Shell.Builtin.Input
import PullDiagnostics.Shell.Builtin.Places
import PullDiagnostics.Shell.Builtin.Signals
import PullDiagnostics.Shell.Builtin.Variables

/-!
# Commands of the shell itself

The commands that leave loops, functions and the shell, those that print texts and decide
conditions, and which command is meant by a name.
-/

namespace PullDiagnostics.Shell.Builtin

/-- Whether a failure of a command ends the shell. -/
def isSpecial (name : String) : Bool :=
  Parser.specialCommands.contains name

/-- The command that fills in formats. -/
def printf : List Bytes → State → Outcome :=
  withOptions {} fun _ arguments s =>
    match arguments with
    | [] => fail s (bytesOf "usage: printf format [arg ...]")
    | format :: rest =>
        let filled := Format.fill format rest
        print (filled.complaints.foldl State.complain s) "printf" filled.output filled.status

/-- The command that decides conditions. -/
def test (arguments : List Bytes) (s : State) : Outcome :=
  match Condition.holds s.files arguments with
  | .ok holds => done s (if holds then 0 else 1)
  | .error e => fail s (bytesOf e.message)

/-- The command that decides conditions in brackets. -/
def testBracketed (arguments : List Bytes) (s : State) : Outcome :=
  if arguments.getLast? = some (bytesOf "]") then test arguments.dropLast s
  else fail s (bytesOf "missing ]")

/-- The commands that leave loops. -/
def leave (flow : Nat → Flow) (arguments : List Bytes) (s : State) : Outcome :=
  let go (n : Nat) : Outcome :=
    if s.loops = 0 then done s 0 else .ok (flow (min n s.loops), { s with status := 0 })
  match arguments with
  | [] => go 1
  | argument :: _ =>
      match number? argument with
      | some (n + 1) => go (n + 1)
      | _ => illegalNumber s argument

/-- The commands that leave a function or the shell with a number. -/
def leaveWith (flow : Flow) (usual : Nat) (arguments : List Bytes) (s : State) : Outcome :=
  match arguments with
  | [] => .ok (flow, { s with status := usual })
  | argument :: _ =>
      match number? argument with
      | some status => .ok (flow, { s with status })
      | none => illegalNumber s argument

/-- The command that says how much of something there may be. -/
def tellLimit : List Bytes → State → Outcome :=
  withOptions { flags := "HSatfdsmcnplvwr".toList } fun _ arguments s =>
    if arguments.isEmpty then print s "ulimit" (bytesOf "unlimited\n") 0 else done s 0

/-- The command of a name, if there is one. -/
def find? (name : String) : Option (List Bytes → State → Outcome) :=
  match name with
  | ":" | "true" => some fun _ s => done s 0
  | "false" => some fun _ s => done s 1
  | "echo" => some fun arguments s => print s "echo" (Format.echo arguments) 0
  | "printf" => some printf
  | "test" => some test
  | "[" => some testBracketed
  | "read" => some readLine
  | "getopts" => some readOption
  | "shift" => some shift
  | "set" => some set
  | "export" => some exportAll
  | "readonly" => some protectAll
  | "local" => some keepLocal
  | "unset" => some unset
  | "alias" => some defineAll
  | "unalias" => some dropAll
  | "exit" => some fun arguments s =>
      leaveWith .exit (s.statusBefore.getD s.status) arguments s
  | "return" => some fun arguments s => leaveWith .returned s.status arguments s
  | "break" => some (leave .leave)
  | "continue" => some (leave .nextRound)
  | "kill" => some sendSignal
  | "trap" => some trap
  | "wait" => some wait
  | "jobs" => some jobs
  | "bg" | "fg" => some resume
  | "cd" | "chdir" => some goTo
  | "pwd" => some tellPlace
  | "umask" => some umask
  | "ulimit" => some tellLimit
  | "hash" => some remember
  | "times" => some fun _ s =>
      print s "times" (bytesOf ("0m0.000000s 0m0.000000s\n" ++ "0m0.000000s 0m0.000000s\n")) 0
  | "type" => some fun arguments s => describe s 0 arguments
  | _ => none

end PullDiagnostics.Shell.Builtin
