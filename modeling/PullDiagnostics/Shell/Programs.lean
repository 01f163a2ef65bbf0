import PullDiagnostics.Shell.Condition
import PullDiagnostics.Shell.Listing
import PullDiagnostics.Shell.Search
import PullDiagnostics.Shell.State

/-!
# Programs

The programs that a script can start by name: those that print and search files, one that
waits, and the ones that do what commands of the shell also do.
-/

namespace PullDiagnostics.Shell

/-- The directories that programs are in. -/
def programDirectories : List String := ["/usr/bin", "/bin"]

/-- The programs. -/
def programNames : List String :=
  ["[", "cat", "echo", "env", "false", "grep", "printf", "sh", "sleep", "test", "true"]

/-- What there is to start under a name, and the path that leads to it. -/
inductive Found where
  | program (name : String) (path : Bytes)
  | notFound (e : FileError)

/-- The program that a path leads to, if it leads to one. Files are never programs. -/
def programAt? (v : FileView) (path : Bytes) : Option String :=
  programNames.find? fun n =>
    programDirectories.any fun d => bytesOf (d ++ "/" ++ n) = v.plain path

/-- The program that a path leads to, or a name without slashes in one of some places. -/
def findProgram (v : FileView) (places : List Bytes) (command : Bytes) : Found :=
  if command.contains FilePath.slash then
    match programAt? v command, v.find command with
    | some n, _ => .program n command
    | none, .ok _ => .notFound .denied
    | none, .error e => .notFound e
  else
    let paths := places.map fun d => if d.isEmpty then command else d ++ FilePath.slash :: command
    match paths.find? fun path => (programAt? v path).isSome with
    | some path => .program (textOf command) path
    | none => .notFound .notFound

/-- The program that a shell finds under a name. -/
def State.findProgram (s : State) (command : Bytes) : Found :=
  Shell.findProgram s.files s.programPlaces command

/-- What a program reads under a name, where a dash is its input. -/
def State.readNamed (s : State) (name : Bytes) : Except FileError Bytes :=
  if name = [0x2D] || name = bytesOf "/dev/stdin" then
    match s.descriptors.find 0 with
    | .file path => s.tree.read path
    | _ => .ok (s.pending 0)
  else s.files.read name

/-- The program that prints files, on those whose names are left. The text that was read so
far is shown in the end, since numbers of lines go on over files. -/
def printFiles (listing : Listing) (text : Bytes) (s : State) : List Bytes → State
  | [] => s.write 1 (listing.shown text)
  | name :: rest =>
      match s.readNamed name with
      | .ok content =>
          let s := if name = [0x2D] then s.setPending 0 [] else s
          printFiles listing (text ++ content) s rest
      | .error e =>
          let said := bytesOf "cat: " ++ name ++ bytesOf (": " ++ e.reason ++ "\n")
          printFiles listing text { s.write 2 said with status := 1 } rest

/-- What the program that prints files does with its arguments: options before two dashes,
and files. -/
def printArguments (s : State) : Listing → List Bytes → List Bytes → State
  | listing, files, [] =>
      printFiles listing [] { s with status := 0 } (if files.isEmpty then [[0x2D]] else files)
  | listing, files, argument :: rest =>
      let fail (text : Bytes) : State :=
        { s.write 2 (bytesOf "cat: " ++ text ++
            bytesOf "\nTry 'cat --help' for more information.\n") with status := 1 }
      match argument with
      | [0x2D, 0x2D] => printArguments s listing (files ++ rest) []
      | 0x2D :: 0x2D :: _ =>
          match Listing.longOptions.find? fun (n, _) => bytesOf n = argument with
          | some (_, letter) =>
              printArguments s ((listing.withLetter? (Shell.ascii letter)).getD listing) files rest
          | none => fail (bytesOf "unrecognized option '" ++ argument ++ bytesOf "'")
      | 0x2D :: b :: letters =>
          match listing.withLetters (b :: letters) with
          | .ok listing => printArguments s listing files rest
          | .error letter => fail (bytesOf "invalid option -- '" ++ [letter] ++ bytesOf "'")
      | _ => printArguments s listing (files ++ [argument]) rest
termination_by _ _ arguments => arguments.length

/-- What the program that decides conditions does with its arguments. -/
def testArguments (s : State) (arguments : List Bytes) : State :=
  match Condition.holds s.files arguments with
  | .ok holds => { s with status := if holds then 0 else 1 }
  | .error e => { s.write 2 (bytesOf ("test: " ++ e.message ++ "\n")) with status := 2 }

/-! ### Waiting -/

/-- The seconds that go with the letter after a number. -/
def secondsOf? (unit : Bytes) : Option Nat :=
  match textOf unit with
  | "" | "s" => some 1
  | "m" => some 60
  | "h" => some 3600
  | "d" => some 86400
  | _ => none

/-- A time that nobody waits to the end of, in nanoseconds. -/
def forever : Nat := Nat.pow 10 27

/-- The number of nanoseconds that an argument tells a program to wait, where parts of one count
as one. -/
def interval? (argument : Bytes) : Option Nat :=
  match RealNumber.read? argument with
  | some (⟨negative, .finite m q⟩, unit, _) =>
      if negative && m ≠ 0 then none
      else (secondsOf? unit).map fun seconds =>
        let units := m * seconds * Nat.pow 10 9
        (units <<< q.toNat + (1 <<< (-q).toNat - 1)) >>> (-q).toNat
  | some (⟨false, .infinite⟩, unit, _) => (secondsOf? unit).map fun _ => forever
  | _ => none

/-- What is wrong with the arguments of the program that waits: an option, since it has none, or
else that nothing is left to wait for or what is left is no time. -/
def waitFaults (options operands : List Bytes) : List Bytes :=
  let quoted (text : String) (argument : Bytes) : Bytes :=
    bytesOf (text ++ " '") ++ argument ++ bytesOf "'"
  match options.find? fun o => 1 < o.length && o.head? = some 0x2D with
  | some (0x2D :: 0x2D :: name) => [quoted "unrecognized option" (0x2D :: 0x2D :: name)]
  | some (_ :: letter :: _) => [quoted "invalid option --" [letter]]
  | _ =>
      if operands.isEmpty then [bytesOf "missing operand"]
      else (operands.filter (interval? · = none)).map (quoted "invalid time interval")

/-- What the program that waits does with its arguments: options before two dashes, and times,
of which it waits for the sum. -/
def waitArguments (arguments : List Bytes) (s : State) : State :=
  let dashes : Bytes := [0x2D, 0x2D]
  let before := arguments.takeWhile (· ≠ dashes)
  let operands := before ++ (arguments.drop (before.length + 1))
  let faults := waitFaults before operands
  if faults.isEmpty then
    { s with status := 0, elapsed := (operands.filterMap interval?).foldl (· + ·) s.elapsed }
  else
    { s.write 2 (faults.flatMap (fun fault => bytesOf "sleep: " ++ fault ++ [0x0A]) ++
        bytesOf "Try 'sleep --help' for more information.\n") with status := 1 }

/-- What the programs do that start no others. -/
def runProgram (name : String) (arguments : List Bytes) (s : State) : State :=
  match name with
  | "cat" => printArguments s {} [] arguments
  | "grep" =>
      let answer := Search.run ⟨s.readNamed, s.files.filesBelow?⟩ arguments
      { ((s.write 1 answer.output).write 2 answer.errors).setPending 0 [] with
        status := answer.status }
  | "echo" => { s.write 1 (Format.plainEcho false true arguments) with status := 0 }
  | "printf" =>
      match arguments with
      | [] => { s with status := 1 }
      | format :: rest =>
          let filled := Format.fill format rest
          { s.write 1 filled.output with status := if filled.status = 0 then 0 else 1 }
  | "test" => testArguments s arguments
  | "[" => testArguments s arguments.dropLast
  | "sleep" => waitArguments arguments s
  | "false" => { s with status := 1 }
  | _ => { s with status := 0 }

end PullDiagnostics.Shell
