import PullDiagnostics.Shell.Run

/-!
# Starting programs

A program is started under a name or a path with arguments; it may read and change files,
writes two streams and ends with a number or by a signal. It has nothing to read from its
input.
-/

namespace PullDiagnostics

/-- How a program has ended. -/
inductive ExitStatus where
  | code (n : Nat)
  | signal (n : Nat)
  deriving DecidableEq, Inhabited

namespace ExitStatus

/-- Whether a program has ended well. -/
def isSuccess : ExitStatus → Bool
  | .code n => n = 0
  | .signal _ => false

/-- What is said of how a program has ended. -/
def describe : ExitStatus → String
  | .code n => "exit status: " ++ toString n
  | .signal n =>
      let name := match Shell.signalNames[n - 1]? with
        | some name => " (SIG" ++ name ++ ")"
        | none => ""
      "signal: " ++ toString n ++ name

end ExitStatus

/-- What a program leaves. -/
structure ProgramResult where
  status : ExitStatus
  stdout : Bytes
  stderr : Bytes
  tree : FileTree
  /-- How long it has waited, in nanoseconds. Apart from that programs take no time. -/
  elapsed : Nat := 0
  deriving Inhabited

/-- How deep the commands of a script may call each other. -/
def scriptDepth : Nat := 1000000

/-- The variables that programs see, if no others are given. -/
def surroundings : List (String × Bytes) :=
  [("HOME", "/nonexistent"), ("LC_ALL", "C"), ("XDG_CONFIG_HOME", "/nonexistent"),
    ("PATH", "/usr/local/sbin:/usr/local/bin:/usr/sbin:/usr/bin:/sbin:/bin")].map fun (n, v) =>
      (n, Shell.bytesOf v)

/-- Starts a program, with more variables that it sees; or says why it cannot be started. -/
def FileTree.launch (t : FileTree) (command : String) (arguments : List Bytes)
    (given : List (String × Bytes) := []) : Except String ProgramResult :=
  let name := Shell.bytesOf command
  let bindings := given ++ surroundings
  if name.contains 0 || arguments.any (·.contains 0) then
    .error "nul byte found in provided data"
  else
    match Shell.findProgram { tree := t } (Shell.programDirectories.map Shell.bytesOf) name with
    | .notFound e => .error e.message
    | .program program _ =>
        let (flow, s) := Shell.startProgram scriptDepth program name arguments
          { tree := t, outputs := #[[], []]
            descriptors := [(0, .nowhere), (1, .output 0), (2, .output 1)]
            bindings, exported := bindings.map (·.1) }
        let status : ExitStatus :=
          match flow with
          | .killed n => .signal n
          | _ => .code s.status
        .ok ⟨status, s.written 0, s.written 1, s.tree, s.elapsed⟩

end PullDiagnostics
