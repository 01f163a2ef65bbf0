import PullDiagnostics.Checker.Basic
import PullDiagnostics.Checker.Failure
import PullDiagnostics.Checker.FileList
import PullDiagnostics.Machine
import PullDiagnostics.Report.Reader

/-!
# Running a checker

A checker is given the files as arguments or, when they are too long for that, as one
argument that names a file with the list. What it writes to either stream is read as a
report. A checker that finds something ends without success, so that this alone is no
failure; it is one if nothing was reported.
-/

namespace PullDiagnostics.Checker

/-- The part of the program that tells of checkers. -/
def logTarget : String := "sift_core::command"

/-- The longest part of what a failed checker has said that is told. -/
def excerptLength : Nat := 2048

/-- The usual directory for the files with lists. -/
def temporary : FilePath := .ofString "/tmp"

/-- The name of a file with a list. -/
def listName : FilePath := .ofString "sift-files-000000.txt"

/-- How long files are as arguments, with what stands between them. -/
def listLength (files : List FilePath) : Nat :=
  files.foldl (fun n p => n + (p.bytes.length + 1)) 0

/-- Whether files are given as a list of their own. -/
def usesList (c : Checker) (files : List FilePath) : Bool :=
  !files.isEmpty && c.argfileThreshold < listLength files

/-- Starts the command of a checker on files. The file with the list is there only while the
command runs. -/
def start (c : Checker) (t : FileTree) (directory : FilePath) (args : List String)
    (files : List FilePath) : Except CheckFailure ProgramResult :=
  let given := args.map Shell.bytesOf
  let settings : List (String × Bytes) :=
    if directory = temporary then [] else [("TMPDIR", directory.bytes)]
  let launch (t : FileTree) (arguments : List Bytes) : Except CheckFailure ProgramResult :=
    (t.launch c.command (given ++ arguments) settings).mapError (.notStarted c.command)
  if c.usesList files then
    let path := directory.join listName
    match t.writeFile path (FileList.content files) with
    | .error e => .error (.noFileList c.command e.message)
    | .ok tree =>
        match launch tree [Shell.bytesOf "@" ++ path.bytes] with
        | .error e => .error e
        | .ok result =>
            .ok { result with tree := (result.tree.delete path).toOption.getD result.tree }
  else launch t (files.map (·.bytes))

/-- How long the command of a checker takes on files, in nanoseconds. -/
def duration (c : Checker) (t : FileTree) (directory : FilePath) (args : List String)
    (files : List FilePath) : Nat :=
  match c.start t directory args files with
  | .error _ => 0
  | .ok result => result.elapsed

/-- A failure of a command that was run. -/
def failureOf (c : Checker) (result : ProgramResult) : CheckFailure :=
  let said := Text.trim (Utf8.decodeLossy result.stderr)
  .failed c.command result.status.describe (String.ofList (said.take excerptLength))

/-- The version that a checker tells: the first line that is not blank. -/
def version (c : Checker) (t : FileTree) : Except CheckFailure String :=
  match c.start t temporary c.versionArgs [] with
  | .error e => .error e
  | .ok result =>
      let lines (stream : Bytes) := (Text.lines (Utf8.decodeLossy stream)).map Text.trim
      let told := (lines result.stdout ++ lines result.stderr).find? (!·.isEmpty)
      match told, result.status.isSuccess with
      | some line, true => .ok (String.ofList line)
      | _, _ => .error (c.failureOf result)

/-- What a checker's streams report. -/
def reported (result : ProgramResult) : List Finding :=
  [result.stdout, result.stderr].flatMap fun stream =>
    Report.parse (Utf8.decodeLossy stream)

/-- What is told of a command that has reported something and ended without success. -/
def unsuccessful (c : Checker) (result : ProgramResult) (count : Nat) : LogRecord :=
  { level := .warn, target := logTarget, message := "analysis command exited unsuccessfully"
    fields := [("command", .text c.command), ("status", .text result.status.describe),
      ("reported", .number count)] }

/-- What the run of a checker's command amounts to. -/
def resultOf (c : Checker) (result : ProgramResult) : CheckResult × Log :=
  let findings := reported result
  if result.status.isSuccess then (⟨findings, .done ()⟩, [])
  else if findings.isEmpty then (⟨[], .failed (c.failureOf result)⟩, [])
  else (⟨findings, .done ()⟩, [c.unsuccessful result findings.length])

/-- Has a checker analyse files. -/
def check (c : Checker) (t : FileTree) (directory : FilePath) (files : List FilePath) :
    CheckResult × Log × FileTree :=
  match c.start t directory c.args files with
  | .error e => (⟨[], .failed e⟩, [], t)
  | .ok result =>
      let (outcome, log) := c.resultOf result
      (outcome, log, result.tree)

end PullDiagnostics.Checker
