/-!
# Signals

The names and numbers of signals, and what is said of a program that one of them has ended.
-/

namespace PullDiagnostics.Shell

/-- The names of signals by number, from one on. -/
def signalNames : List String :=
  ["HUP", "INT", "QUIT", "ILL", "TRAP", "ABRT", "BUS", "FPE", "KILL", "USR1", "SEGV", "USR2",
    "PIPE", "ALRM", "TERM", "STKFLT", "CHLD", "CONT", "STOP", "TSTP", "TTIN", "TTOU", "URG",
    "XCPU", "XFSZ", "VTALRM", "PROF", "WINCH", "IO", "PWR", "SYS"]

/-- Numbers below this one are signals. -/
def signalLimit : Nat := 65

/-- The name that the shell has for a signal, where zero stands for the end of the shell. A
few have only their number, and the ones at the end are counted from both sides. -/
def signalName (n : Nat) : String :=
  if n = 0 then "EXIT"
  else if n = 16 || n = 32 || n = 33 then toString n
  else if n = 34 then "RTMIN"
  else if n = 64 then "RTMAX"
  else if 34 < n && n < 50 then "RTMIN+" ++ toString (n - 34)
  else if 50 ≤ n && n < 64 then "RTMAX-" ++ toString (64 - n)
  else (signalNames[n - 1]?).getD (toString n)

/-- The number of a signal that is given by name, in small or capital letters. -/
def namedSignal? (given : String) : Option Nat :=
  (List.range signalLimit).find? fun n => signalName n = given.toUpper

/-- The number of a signal that is given by number. -/
def numberedSignal? (given : String) : Option Nat :=
  if !given.isEmpty && given.all Char.isDigit then
    given.toNat?.filter (· < signalLimit)
  else none

/-- The number of a signal that is given by number or by name. -/
def signalNumber? (given : String) : Option Nat :=
  numberedSignal? given <|> namedSignal? given

/-- Whether a signal ends nothing. -/
def isHarmless (signal : Nat) : Bool :=
  [0, 17, 18, 23, 28].contains signal

/-- What is said of a program that a signal has ended, if anything is. -/
def signalRemark? (signal : Nat) : Option String :=
  match (signalNames[signal - 1]?).getD "" with
  | "INT" | "PIPE" => none
  | "HUP" => some "Hangup"
  | "QUIT" => some "Quit"
  | "ILL" => some "Illegal instruction"
  | "TRAP" => some "Trace/breakpoint trap"
  | "ABRT" => some "Aborted"
  | "BUS" => some "Bus error"
  | "FPE" => some "Floating point exception"
  | "KILL" => some "Killed"
  | "USR1" => some "User defined signal 1"
  | "SEGV" => some "Segmentation fault"
  | "USR2" => some "User defined signal 2"
  | "ALRM" => some "Alarm clock"
  | "TERM" => some "Terminated"
  | "STKFLT" => some "Stack fault"
  | "XCPU" => some "CPU time limit exceeded"
  | "XFSZ" => some "File size limit exceeded"
  | "VTALRM" => some "Virtual timer expired"
  | "PROF" => some "Profiling timer expired"
  | "IO" => some "I/O possible"
  | "PWR" => some "Power failure"
  | "SYS" => some "Bad system call"
  | _ =>
      if 34 ≤ signal then some ("Real-time signal " ++ toString (signal - 34))
      else some ("Unknown signal " ++ toString signal)

end PullDiagnostics.Shell
