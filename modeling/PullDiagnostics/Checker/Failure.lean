import PullDiagnostics.Finding
import PullDiagnostics.Log

/-!
# How checks end

A check reports findings one after the other and then ends in one of several ways. What was
reported before a check went wrong is kept.
-/

namespace PullDiagnostics

/-- Why a check, or the question for a version, went wrong. -/
inductive CheckFailure where
  /-- The command could not be started. -/
  | notStarted (command cause : String)
  /-- The file with the list of files could not be written. -/
  | noFileList (command cause : String)
  /-- The command ended without success. -/
  | failed (command status stderr : String)
  /-- The checker broke down. -/
  | crashed (message : String)
  deriving DecidableEq, Inhabited

/-- What is said of a failure. -/
def CheckFailure.message : CheckFailure → String
  | .notStarted command cause => "failed to launch `" ++ command ++ "`: " ++ cause
  | .noFileList command cause =>
      "failed to write the file list for `" ++ command ++ "`: " ++ cause
  | .failed command status stderr =>
      "`" ++ command ++ "` exited with " ++ status ++ ": " ++ stderr
  | .crashed message => "analysis engine crashed: " ++ message

/-- How a piece of work that a checker does ends. -/
inductive Ending (α : Type) where
  | done (value : α)
  | failed (e : CheckFailure)
  /-- The checker broke down, with what it said. -/
  | panicked (message : String)
  /-- Nothing comes back, not even that it went wrong. -/
  | lost
  deriving DecidableEq, Inhabited

/-- What a check gives: the findings in the order of their reports, and how it ended. -/
structure CheckResult where
  findings : List Finding := []
  ending : Ending Unit := .done ()
  deriving DecidableEq, Inhabited

end PullDiagnostics
