import PullDiagnostics.Shell.FileView
import PullDiagnostics.Shell.Numeral
import PullDiagnostics.Shell.Pathnames
import PullDiagnostics.Shell.Script

/-!
# The state of a shell

Variables, arguments and functions, the files that commands read and write, and the streams
between commands. A stream that is written collects its chunks, the last one first; a stream
that is read holds what is left of it. Descriptors say which number leads where.
-/

namespace PullDiagnostics.Shell

/-- Where a descriptor leads. -/
inductive Descriptor where
  | closed
  /-- Nothing comes from there, and what goes there is lost. -/
  | nowhere
  | input (stream : Nat)
  | output (stream : Nat)
  | file (path : FilePath)
  deriving Inhabited, DecidableEq

/-- The descriptors by number; the first entry for a number holds. -/
abbrev Descriptors := List (Nat × Descriptor)

/-- Where a number leads. -/
def Descriptors.find (fds : Descriptors) (n : Nat) : Descriptor :=
  match List.find? (fun (m, _) => m == n) fds with
  | some (_, d) => d
  | none => .closed

/-- How the commands of a list go on after one of them. -/
inductive Flow where
  | next
  /-- The shell ends with its status. -/
  | exit
  /-- The shell is ended by a signal. -/
  | killed (signal : Nat)
  /-- Some loops are left. -/
  | leave (loops : Nat)
  /-- Some loops are left, and the one around them goes on with its next round. -/
  | nextRound (loops : Nat)
  /-- A function is left. -/
  | returned
  deriving DecidableEq, Inhabited

/-- A function, with the number of line ends in the script that it comes from. -/
structure Function where
  lineEnds : Nat
  body : Command

/-- How far the arguments have been read for options: the next argument, counted from one, and
how many bytes of the one before it were read, if it is not done. -/
structure OptionPlace where
  next : Nat := 1
  read : Option Nat := none
  deriving Inhabited

/-- The state of a shell. -/
structure State where
  tree : FileTree
  descriptors : Descriptors := []
  scriptName : Bytes := []
  arguments : List Bytes := []
  bindings : List (String × Bytes) := []
  /-- Variables that programs see which the shell starts. -/
  exported : List String := []
  /-- Variables that cannot be set any more. -/
  readOnly : List String := []
  functions : List (String × Function) := []
  /-- The directory that was gone to, if any was. -/
  directory : Bytes := []
  aliases : List (String × Bytes) := []
  /-- The letters of options. -/
  options : List Char := []
  optionPlace : OptionPlace := {}
  /-- What nobody may do with new files. -/
  mask : Nat := 0o022
  /-- The numbers of commands that nobody waited for, the last one first, and what they ended
  with. -/
  background : List (Nat × Nat) := []
  /-- What to do after a signal by its number, and at the end by zero. -/
  traps : List (Nat × Bytes) := []
  /-- Signals that have come, each once, and of which the action is still to run. -/
  caught : List Nat := []
  /-- The traps of the shell that the commands which run apart belong to, if they do. -/
  outerTraps : Option (List (Nat × Bytes)) := none
  /-- What the last command before the action of a trap ended with. -/
  statusBefore : Option Nat := none
  /-- The variables that the function which runs has for itself, and what they were
  before. -/
  shadowed : Option (List (String × Option Bytes)) := none
  /-- How many loops are around the commands that run. -/
  loops : Nat := 0
  /-- Whether something else is done if the commands that run fail. -/
  isTested : Bool := false
  /-- What the last command ended with. -/
  status : Nat := 0
  /-- What the commands ended with of which a word last took the output. -/
  substituted : Nat := 0
  outputs : Array (List Bytes) := #[]
  inputs : Array Bytes := #[]
  /-- The number of line ends in the script. -/
  lineEnds : Nat := 0
  /-- The line of the command that runs. -/
  line : Nat := 1
  /-- The command of the shell itself that runs. -/
  commandName : Option Bytes := none
  /-- The shell has to end. -/
  isOver : Bool := false
  /-- The signal by which it has to end. -/
  signal : Option Nat := none
  /-- How long commands have waited, in nanoseconds. Those that would run at the same time run
  one after the other, and so do their waits. -/
  elapsed : Nat := 0
  deriving Inhabited

/-- The number by which the shell knows itself. -/
def processNumber : Nat := 4242

/-- Text as bytes. -/
def bytesOf (s : String) : Bytes := Utf8.encode s.toList

/-- Bytes as text. -/
def textOf (bytes : Bytes) : String := String.ofList (Utf8.decodeLossy bytes)

/-- A number in decimal digits. -/
def decimal (n : Nat) : Bytes :=
  Utf8.encode (Nat.toDigits 10 n)

namespace State

/-- The state at the command before which some line ends of the script are left. -/
def atLine (s : State) (after : Nat) : State :=
  { s with line := s.lineEnds - after + 1 }

/-- Whether an option is set. -/
def has (s : State) (option : Char) : Bool :=
  s.options.contains option

/-- The files as commands name them. -/
def files (s : State) : FileView :=
  ⟨s.tree, s.directory⟩

/-- The path that a name stands for. -/
def resolve (s : State) (name : Bytes) : FilePath :=
  s.files.resolve name

/-! ### Variables -/

/-- The value of a variable. -/
def lookUp? (s : State) (name : String) : Option Bytes :=
  (s.bindings.find? fun (n, _) => n == name).map (·.2)

/-- A variable is set, whatever it is. -/
def putVariable (s : State) (name : String) (value : Bytes) : State :=
  { s with bindings := (name, value) :: s.bindings.filter fun (n, _) => n != name }

/-- The variable that tells which argument is next to be read for options. -/
def optionVariable : String := "OPTIND"

/-- A variable is set, if it can be. An option makes programs see it, and the arguments are
read for options from the place that a certain variable is set to. -/
def setVariable? (s : State) (name : String) (value : Bytes) : Option State :=
  if s.readOnly.contains name then none
  else
    let s := s.putVariable name value
    let s := if s.has 'a' then { s with exported := name :: s.exported } else s
    some (if name = optionVariable then
        let next := Numeral.decimal (value.takeWhile Numeral.isDigit)
        { s with optionPlace := { next := max 1 next } }
      else s)

/-- A variable is as it was before. -/
def restoreVariable (s : State) (name : String) (before : Option Bytes) : State :=
  match before with
  | some value => s.putVariable name value
  | none => { s with bindings := s.bindings.filter fun (n, _) => n != name }

/-- The letters of options, of which the last one is shown first. -/
def optionLetters : List Char :=
  "efIimnsxvVECabup".toList

/-- The value of a parameter that is no list. -/
def parameter? (s : State) (name : String) : Option Bytes :=
  match name with
  | "#" => some (decimal s.arguments.length)
  | "?" => some (decimal s.status)
  | "$" => some (decimal processNumber)
  | "0" => some s.scriptName
  | "-" => some (Utf8.encode (optionLetters.reverse.filter s.has))
  | "!" => s.background.head?.map fun (n, _) => decimal n
  | _ =>
      match name.toNat? with
      | some n => s.arguments[n - 1]?
      | none => s.lookUp? name

/-- The directories that are looked through for programs, one after the other. -/
def programPlaces (s : State) : List Bytes :=
  match s.lookUp? "PATH" with
  | some places => places.splitOn 0x3A
  | none => []

/-- The characters between fields. -/
def separators (s : State) : Bytes :=
  (s.lookUp? "IFS").getD [0x20, 0x09, 0x0A]

/-- What stands between arguments that are one text: the first of the characters between
fields. -/
def joint (s : State) : Bytes :=
  s.separators.take 1

/-! ### Streams -/

/-- A new stream to write to. -/
def newOutput (s : State) : Nat × State :=
  (s.outputs.size, { s with outputs := s.outputs.push [] })

/-- A new stream to read from. -/
def newInput (s : State) (content : Bytes) : Nat × State :=
  (s.inputs.size, { s with inputs := s.inputs.push content })

/-- What was written to a stream. -/
def written (s : State) (stream : Nat) : Bytes :=
  ((s.outputs[stream]?).getD []).reverse.flatten

/-- Whether a descriptor can be written to. -/
def isWritable (s : State) (n : Nat) : Bool :=
  match s.descriptors.find n with
  | .nowhere | .output _ | .file _ => true
  | .closed | .input _ => false

/-- Bytes are written to a descriptor. -/
def write (s : State) (n : Nat) (bytes : Bytes) : State :=
  match s.descriptors.find n with
  | .output stream => { s with outputs := s.outputs.modify stream (bytes :: ·) }
  | .file path =>
      match s.tree.read path with
      | .ok content =>
          match s.tree.writeFile path (content ++ bytes) with
          | .ok tree => { s with tree }
          | .error _ => s
      | .error _ => s
  | _ => s

/-- What is left to read from a descriptor. -/
def pending (s : State) (n : Nat) : Bytes :=
  match s.descriptors.find n with
  | .input stream => (s.inputs[stream]?).getD []
  | .file path => (s.tree.read path).toOption.getD []
  | _ => []

/-- What is left to read from a descriptor afterwards. -/
def setPending (s : State) (n : Nat) (bytes : Bytes) : State :=
  match s.descriptors.find n with
  | .input stream => { s with inputs := s.inputs.modify stream fun _ => bytes }
  | _ => s

/-- A descriptor leads somewhere else. -/
def direct (s : State) (n : Nat) (d : Descriptor) : State :=
  { s with descriptors := (n, d) :: s.descriptors }

/-- The shell says what is wrong: itself, or the command of it that runs. -/
def complain (s : State) (text : Bytes) : State :=
  let name := match s.commandName with
    | some name => name ++ bytesOf ": "
    | none => []
  s.write 2 (s.scriptName ++ bytesOf (": " ++ toString s.line ++ ": ") ++ name ++ text ++ [0x0A])

/-- The shell says what is wrong and has to end. -/
def abandon (s : State) (text : Bytes) : State :=
  { s.complain text with status := 2, isOver := true }

/-- A variable is set, or the shell says that it cannot be and has to end. -/
def setVariable (s : State) (name : String) (value : Bytes) : State :=
  match s.setVariable? name value with
  | some s => s
  | none => s.abandon (bytesOf (name ++ ": is read only"))

/-- The state after commands that ran apart: what they did to files and streams holds, and the
signals that they have sent to the shell, and the time that they took; all else is as before. -/
def afterApart (before after : State) : State :=
  { before with
    tree := after.tree, outputs := after.outputs, inputs := after.inputs
    status := after.status, caught := after.caught, elapsed := after.elapsed }

/-- The state in which commands run apart. Only signals that are ignored stay as they are. -/
def apart (s : State) : State :=
  { s with
    traps := s.traps.filter fun (_, action) => action.isEmpty
    outerTraps := some (s.outerTraps.getD s.traps) }

/-- What variables are at the start of a shell. -/
def startBindings : List (String × Bytes) :=
  [("IFS", [0x20, 0x09, 0x0A]), (optionVariable, bytesOf "1"), ("PPID", bytesOf "4241"),
    ("PS1", bytesOf "# "), ("PS2", bytesOf "> "), ("PS4", bytesOf "+ ")]

/-- The state in which another shell begins. -/
def fresh (s : State) : State :=
  { s.apart with
    bindings := (s.bindings.filter fun (n, _) => s.exported.contains n && n ≠ "IFS") ++
      startBindings.filter fun (n, _) => !s.exported.contains n
    functions := [], aliases := [], options := [], optionPlace := {}, background := []
    readOnly := []
    caught := [], outerTraps := none, statusBefore := none, shadowed := none
    loops := 0, isTested := false, status := 0, commandName := none, isOver := false }

/-- How things go on from a state. -/
def flow (s : State) : Flow :=
  match s.signal with
  | some n => .killed n
  | none => if s.isOver then .exit else .next

/-- What is to be done after a signal. -/
def trap? (s : State) (signal : Nat) : Option Bytes :=
  (s.traps.find? fun (n, _) => n == signal).map (·.2)

/-- What the shell does after a signal that is sent to it, be it by commands that run apart. -/
def outerTrap? (s : State) (signal : Nat) : Option Bytes :=
  ((s.outerTraps.getD s.traps).find? fun (n, _) => n == signal).map (·.2)

/-- The directory of a user, or the own one without a name. -/
def home? (s : State) (user : List Char) : Option (List Char) :=
  if user.isEmpty then (s.lookUp? "HOME").map Utf8.decodeLossy
  else if user = "root".toList then some "/root".toList
  else none

end State

/-! ### Fields -/

/-- A stretch of an expanded word. -/
inductive Segment where
  | text (quoted : Bool) (bytes : Bytes)
  /-- The value of something that is not quoted, which falls apart at separators. -/
  | split (bytes : Bytes)
  /-- The end of a field. -/
  | break_
  deriving Inhabited

/-- Bytes of a field, each with whether it is quoted. -/
abbrev Field := List (Bool × UInt8)

/-- Fields in the making: those that are done and the one that is begun, of both the last
part first; and whether a blank has ended the last one. -/
structure Fields where
  done : List Field := []
  current : Option Field := none
  afterBlank : Bool := false

namespace Fields

/-- The field that is begun is done. -/
def close (f : Fields) : Fields :=
  match f.current with
  | some bytes => { done := bytes.reverse :: f.done }
  | none => f

/-- Bytes join the field that is begun. -/
def add (f : Fields) (bytes : Field) : Fields :=
  { f with current := some (bytes.reverse ++ f.current.getD []), afterBlank := false }

/-- A byte of a value that falls apart: blanks among the separators count as one with what
they stand by, and every other separator ends a field. -/
def addByte (separators : Bytes) (f : Fields) (b : UInt8) : Fields :=
  if !separators.contains b then f.add [(false, b)]
  else
    let isBlank := b = 0x20 || b = 0x09 || b = 0x0A
    match f.current with
    | some _ => { f.close with afterBlank := isBlank }
    | none =>
        if isBlank then f
        else if f.afterBlank then { f with afterBlank := false }
        else { f with done := [] :: f.done }

/-- A stretch joins. -/
def addSegment (separators : Bytes) (f : Fields) : Segment → Fields
  | .text quoted bytes => if quoted || !bytes.isEmpty then f.add (bytes.map (quoted, ·)) else f
  | .split bytes => bytes.foldl (addByte separators) f
  | .break_ => f.close

/-- The fields of an expanded word. -/
def ofSegments (separators : Bytes) (segments : List Segment) : List Field :=
  (segments.foldl (addSegment separators) {}).close.done.reverse

end Fields

/-- The bytes of an expanded word that does not fall apart. -/
def State.joined (s : State) (segments : List Segment) : Bytes :=
  segments.flatMap fun
    | .text _ bytes => bytes
    | .split bytes => bytes
    | .break_ => s.joint

/-- The pattern that an expanded word is. -/
def State.pattern (s : State) (segments : List Segment) : List PatternPart :=
  PatternPart.ofMarked (segments.flatMap fun
    | .text quoted bytes => bytes.map (quoted, ·)
    | .split bytes => bytes.map (false, ·)
    | .break_ => s.joint.map (true, ·))

/-- What the fields of an expanded word stand for: the paths that match those with a pattern,
unless an option takes patterns their meaning. -/
def State.fields (s : State) (segments : List Segment) : List Bytes :=
  (Fields.ofSegments s.separators segments).flatMap fun field =>
    if s.has 'f' then [field.map (·.2)] else matchingPaths s.tree s.resolve field

end PullDiagnostics.Shell
