import PullDiagnostics.FileTree.Basic
import PullDiagnostics.Json.Parser
import PullDiagnostics.Log
import PullDiagnostics.Settings.Basic

/-!
# The settings file of a workspace

A workspace may hold a file with a layer of settings. A file that is missing changes nothing;
one that cannot be used is told of, and changes nothing either.
-/

namespace PullDiagnostics.Settings

/-- The part of the program that tells of settings. -/
def logTarget : String := "sift::settings"

/-- Why a settings file cannot be used. -/
inductive FileProblem where
  | unreadable (e : FileError)
  | malformed (e : Json.SyntaxError) (text : Bytes)
  | refused (e : DecodeError)

/-- What is said of a settings file that cannot be used. -/
def FileProblem.message (path : FilePath) : FileProblem → String
  | .unreadable e => "failed to read " ++ path.display ++ ": " ++ e.message
  | .malformed e text => "failed to parse " ++ path.display ++ ": " ++ e.message text
  | .refused e => "invalid settings in " ++ path.display ++ ": " ++ e.message

/-- The defaults with the layer of a file over them. -/
def readFile (t : FileTree) (path : FilePath) : Except FileProblem Settings :=
  match t.read path with
  | .error e => .error (.unreadable e)
  | .ok bytes =>
      match Utf8.decode? bytes with
      | none => .error (.unreadable .notText)
      | some _ =>
          match Json.parse bytes with
          | .error e => .error (.malformed e bytes)
          | .ok layer => (overlay {} layer).mapError .refused

/-- The settings that the file in a directory gives, and what is told of it. -/
def load (t : FileTree) (root : FilePath) : Settings × Log :=
  let path := root.join (.ofString fileName)
  if t.contains path then
    match readFile t path with
    | .ok s => (s, [])
    | .error e =>
        ({}, [{ level := .warn, target := logTarget, message := "ignoring settings file"
                fields := [("path", .text path.display), ("error", .text (e.message path))] }])
  else ({}, [])

end PullDiagnostics.Settings
