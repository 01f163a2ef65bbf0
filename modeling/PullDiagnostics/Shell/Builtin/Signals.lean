import PullDiagnostics.Shell.Builtin.Basic
import PullDiagnostics.Shell.Signal

/-!
# Signals and jobs

The commands that send signals, say what to do after them, and wait for commands that nobody
waited for. A signal that is sent by commands which run apart reaches the shell that they
belong to.
-/

namespace PullDiagnostics.Shell

namespace Builtin

/-- A signal reaches the shell. -/
def receive (signal : Nat) (s : State) : Outcome :=
  if signal = 0 then done s 0
  else
    match s.outerTrap? signal with
    | some action =>
        if signal = 9 || signal = 19 then .ok (.killed signal, s)
        else if action.isEmpty || s.caught.contains signal then done s 0
        else done { s with caught := s.caught ++ [signal] } 0
    | none => if isHarmless signal then done s 0 else .ok (.killed signal, s)

/-- A signal is sent to one target after the other. There is no process but the shell. -/
def sendTo (signal : Nat) (status : Nat) (s : State) : List Bytes → Outcome
  | [] => done s status
  | target :: rest =>
      let (isGroup, text) : Bool × Bytes :=
        match target with
        | 0x2D :: text => (true, text)
        | text => (false, text)
      if target.head? = some 0x25 then noJob s target
      else
        match number? text with
        | none => illegalNumber s text
        | some n =>
            if (n = processNumber && !isGroup) || n = 0 then
              match receive signal s with
              | .ok (.next, s) => sendTo signal status s rest
              | ended => ended
            else sendTo signal 1 (s.complain (bytesOf "No such process\n")) rest

/-- The names of all signals, or of the one that a status tells. -/
def listSignals (s : State) : List Bytes → Outcome
  | [] =>
      let names := (List.range signalLimit).tail.flatMap fun n => bytesOf (signalName n ++ "\n")
      print s "kill" (bytesOf "0\n" ++ names) 0
  | given :: _ =>
      match number? given with
      | none => illegalNumber s given
      | some n =>
          let signal := if n > 128 then n - 128 else n
          if 0 < signal && signal < signalLimit then
            print s "kill" (bytesOf (signalName signal ++ "\n")) 0
          else fail s (bytesOf "invalid signal number or exit status: " ++ given)

/-- The signal that options name, if one does. -/
def givenSignal? (options : List GivenOption) : Except Bytes (Option Nat) :=
  options.foldlM (fun signal (letter, value) =>
    if letter = 's' then
      match signalNumber? (textOf value) with
      | some 0 => if value = [0x30] then .ok (some 0) else .error value
      | some n => .ok (some n)
      | none => .error value
    else .ok signal) none

/-- The command that sends signals. -/
def sendSignal (arguments : List Bytes) (s : State) : Outcome :=
  let usage : Outcome :=
    fail s (bytesOf ("Usage: kill [-s sigspec | -signum | -sigspec] [pid | job]... or\n" ++
      "kill -l [exitstatus]"))
  let send (signal : Nat) (targets : List Bytes) : Outcome :=
    if targets.isEmpty then usage else sendTo signal 0 s targets
  let named? : Option Nat :=
    match arguments with
    | (0x2D :: text) :: _ =>
        (signalNumber? (textOf text)).filter fun n => n ≠ 0 || text.all Numeral.isDigit
    | _ => none
  match named? with
  | some signal => send signal arguments.tail
  | none =>
      match takeOptions { flags := ['l'], valued := ['s'] } arguments with
      | .error e => fail s e
      | .ok (options, left) =>
          match givenSignal? options with
          | .error given => fail s (bytesOf "invalid signal number or name: " ++ given)
          | .ok signal =>
              if !options.any (·.1 = 'l') then send (signal.getD 15) left
              else if signal.isNone || left.isEmpty then listSignals s left
              else usage

/-! ### Traps -/

/-- Traps are set one after the other, up to the first that cannot be. -/
def setTraps (action : Option Bytes) (s : State) : List Bytes → Outcome
  | [] => done s 0
  | given :: rest =>
      match signalNumber? (textOf given) with
      | none => done (s.write 2 (bytesOf "trap: " ++ given ++ bytesOf ": bad trap\n")) 1
      | some n =>
          let others := s.traps.filter fun (m, _) => m ≠ n
          let traps := match action with
            | some action => (n, action) :: others
            | none => others
          setTraps action { s with traps } rest

/-- What is to be done after signals, as the command that sets it would be written. -/
def shownTraps (s : State) : Bytes :=
  (List.range signalLimit).flatMap fun n =>
    match s.trap? n with
    | some action => bytesOf "trap -- " ++ quoted action ++ bytesOf (" " ++ signalName n ++ "\n")
    | none => []

/-- The command that says what to do after signals. -/
def trap : List Bytes → State → Outcome :=
  withOptions {} fun _ arguments s =>
    match arguments with
    | [] => print s "trap" (shownTraps s) 0
    | first :: rest =>
        if rest.isEmpty || (numberedSignal? (textOf first)).isSome then
          setTraps none s (first :: rest)
        else setTraps (if first = [0x2D] then none else some first) s rest

/-! ### Jobs -/

/-- Waits for commands one after the other; the last one that there is tells the status. -/
def waitFor (status : Nat) (s : State) : List Bytes → Outcome
  | [] => done s status
  | given :: rest =>
      if given.head? = some 0x25 then noJob s given
      else
        match number? given with
        | none => illegalNumber s given
        | some n =>
            let ended := (s.background.find? fun (m, _) => m == n).map (·.2)
            waitFor (ended.getD status) s rest

/-- The command that waits for commands that nobody waited for. -/
def wait : List Bytes → State → Outcome :=
  withOptions {} fun _ arguments s =>
    if arguments.isEmpty then done s 0 else waitFor 127 s arguments

/-- The command that lists jobs, of which there are none. -/
def jobs : List Bytes → State → Outcome :=
  withOptions { flags := ['l', 'p'] } fun _ arguments s =>
    match arguments with
    | [] => done s 0
    | given :: _ => noJob s given

/-- The commands that let a job go on. -/
def resume : List Bytes → State → Outcome :=
  withOptions {} fun _ arguments s =>
    match arguments with
    | [] => fail s (bytesOf "No current job")
    | given :: _ => noJob s given

end Builtin

end PullDiagnostics.Shell
