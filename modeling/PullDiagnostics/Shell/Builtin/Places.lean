import PullDiagnostics.Shell.Builtin.Basic
import PullDiagnostics.Shell.Mode
import PullDiagnostics.Shell.Parser
import PullDiagnostics.Shell.Programs

/-!
# Directories and meanings of names

The commands that go to directories, say what new files are allowed, and say what names stand
for.
-/

namespace PullDiagnostics.Shell.Builtin

/-! ### Directories -/

/-- The path of a directory without links in it. -/
def realPath? (s : State) (name : Bytes) : Option Bytes :=
  match s.tree.locate (s.resolve name) {} with
  | .ok [] => some [FilePath.slash]
  | .ok names => some (names.flatMap fun n => FilePath.slash :: n)
  | .error _ => none

/-- Whether a name of a directory is looked for in no other places. -/
def isPlaced (target : Bytes) : Bool :=
  match target.splitOn FilePath.slash with
  | first :: _ => first.isEmpty || first = [FilePath.dot] || first = [FilePath.dot, FilePath.dot]
  | [] => true

/-- The directory that a name leads to, and whether it was found in some other place. -/
def findDirectory (s : State) (target : Bytes) : Bytes × Bool :=
  let places := (((s.lookUp? "CDPATH").getD []).splitOn 0x3A).map fun place =>
    if place.isEmpty then (target, false) else (place ++ FilePath.slash :: target, true)
  if isPlaced target then (target, false)
  else (places.find? fun (path, _) => s.files.isDirectory path).getD (target, false)

/-- The shell is in another directory, which variables tell. -/
def moveTo (s : State) (directory : Bytes) : Except String State :=
  let before := if s.directory.isEmpty then s.lookUp? "PWD" else some s.directory
  let tell (s : State) (name : String) (value : Bytes) : Except String State :=
    match s.setVariable? name value with
    | some s => .ok { s with exported := name :: s.exported }
    | none => .error name
  let s := { s with directory }
  match before with
  | some before => do
      let s ← tell s "OLDPWD" before
      tell s "PWD" directory
  | none => tell s "PWD" directory

/-- The command that goes to a directory: to the one of the user if none is given, and back to
the one before for a dash. -/
def goTo : List Bytes → State → Outcome :=
  withOptions { flags := ['L', 'P'] } fun options arguments s =>
    let isPhysical := options.getLast?.any (·.1 = 'P')
    let isBack := arguments.head? = some [0x2D]
    let given : Bytes :=
      match arguments with
      | [] => (s.lookUp? "HOME").getD []
      | target :: _ => if isBack then (s.lookUp? "OLDPWD").getD [] else target
    let (path, isElsewhere) := findDirectory s (if given.isEmpty then [FilePath.dot] else given)
    let directory? : Option Bytes :=
      if isPhysical then (realPath? s path).filter s.files.isDirectory
      else some (s.files.plain path)
    if given.isEmpty && s.directory.isEmpty then done s 0
    else
      match directory?.filter s.files.isDirectory with
      | none => fail s (bytesOf "can't cd to " ++ given)
      | some directory =>
          match moveTo s directory with
          | .error name => fail { s with directory } (bytesOf (name ++ ": is read only"))
          | .ok s => print s "cd" (if isBack || isElsewhere then directory ++ [0x0A] else []) 0

/-- The command that says where the shell is. -/
def tellPlace : List Bytes → State → Outcome :=
  withOptions { flags := ['L', 'P'] } fun options _ s =>
    let place := if s.directory.isEmpty then [FilePath.slash] else s.directory
    let isPhysical := options.getLast?.any (·.1 = 'P')
    let place := if isPhysical then (realPath? s place).getD place else place
    print s "pwd" (place ++ [0x0A]) 0

/-- The command that says what nobody may do with new files, or changes that. -/
def umask : List Bytes → State → Outcome :=
  withOptions { flags := ['S'] } fun options arguments s =>
    let mode := Mode.without Mode.full s.mask
    match arguments with
    | [] =>
        let text := if options.isEmpty then Mode.octal s.mask else Mode.symbolic mode
        print s "umask" (bytesOf (text ++ "\n")) 0
    | given :: _ =>
        if given.head?.any Numeral.isDigit then
          match Mode.ofOctal? (Utf8.decodeLossy given) with
          | some mask => done { s with mask } 0
          | none => illegalNumber s given
        else
          match Mode.change? mode (Utf8.decodeLossy given) with
          | some mode => done { s with mask := Mode.without Mode.full mode } 0
          | none => fail s (bytesOf "Illegal mode: " ++ given)

/-! ### Names -/

/-- The commands of the shell. -/
def names : List String :=
  Parser.specialCommands ++
    ["[", "alias", "bg", "cd", "chdir", "command", "echo", "false", "fg", "getopts", "hash",
      "jobs", "kill", "printf", "pwd", "read", "test", "true", "type", "ulimit", "umask",
      "unalias", "wait"]

/-- What a name stands for, if anything: in words, and as it is to be called. -/
def meaning? (s : State) (name : Bytes) : Option (Bytes × Bytes) :=
  let text := textOf name
  if Parser.reservedWords.contains text then some (bytesOf "is a shell keyword", name)
  else
    match s.aliases.find? fun (n, _) => n = text with
    | some (_, value) =>
        some (bytesOf "is an alias for " ++ value, bytesOf "alias " ++ name ++ 0x3D :: quoted value)
    | none =>
        if s.functions.any fun (n, _) => n = text then some (bytesOf "is a shell function", name)
        else if Parser.specialCommands.contains text then
          some (bytesOf "is a special shell builtin", name)
        else if names.contains text then some (bytesOf "is a shell builtin", name)
        else
          match s.findProgram name with
          | .program _ path => some (bytesOf "is " ++ path, path)
          | .notFound .denied => some (bytesOf "is " ++ name, name)
          | .notFound _ => none

/-- The command that says what names stand for. -/
def describe (s : State) (status : Nat) : List Bytes → Outcome
  | [] => done s status
  | name :: rest =>
      match meaning? s name with
      | some (text, _) => describe (s.write 1 (name ++ 0x20 :: text ++ [0x0A])) status rest
      | none => describe (s.write 1 (name ++ bytesOf ": not found\n")) 127 rest

/-- The command that finds what a name stands for. -/
def find (s : State) (name : Bytes) : Outcome :=
  match meaning? s name with
  | some (_, called) => done (s.write 1 (called ++ [0x0A])) 0
  | none => done s 127

/-- Programs are looked for, one after the other. -/
def seek (status : Nat) (s : State) : List Bytes → Outcome
  | [] => done s status
  | name :: rest =>
      if (meaning? s name).isSome then seek status s rest
      else seek 1 (s.complain (name ++ bytesOf ": not found")) rest

/-- The command that remembers where programs are. -/
def remember : List Bytes → State → Outcome :=
  withOptions { flags := ['r'] } fun _ arguments s => seek 0 s arguments

end PullDiagnostics.Shell.Builtin
