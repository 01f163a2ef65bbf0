import PullDiagnostics.FilePath

/-!
# Checkers

A checker is an external command that is given the files to analyse and writes a report. Its
name is that of the command's file, without directories and extension.
-/

namespace PullDiagnostics

/-- An external command that analyses files. -/
structure Checker where
  name : String
  command : String
  /-- Arguments before the files. -/
  args : List String := []
  /-- Arguments that make the command tell its version. -/
  versionArgs : List String := ["-version"]
  /-- The length of a list of files above which the list goes into a file of its own. -/
  argfileThreshold : Nat := 32768
  deriving DecidableEq, Inhabited

namespace Checker

/-- The name that goes with a command. -/
def nameOf (command : String) : String :=
  match (FilePath.ofString command).fileStem? with
  | some stem => String.ofList (Utf8.decodeLossy stem)
  | none => command

/-- A checker with nothing but its command. -/
def ofCommand (command : String) : Checker :=
  { name := nameOf command, command }

end Checker

end PullDiagnostics
