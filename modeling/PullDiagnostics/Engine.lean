import PullDiagnostics.Checker.Run
import PullDiagnostics.Pass

/-!
# Analysis engines

What analyses files: a checker that is run as a command, or an engine that the host of the
server provides. A pass asks an engine to check files; whatever goes wrong is kept in the
pass and told in the log.

* `ofResult_complete`: a pass is complete exactly if the check came to its end.
-/

namespace PullDiagnostics

/-- What analyses files. -/
inductive Engine where
  | command (checker : Checker)
  /-- An engine that the host provides and knows by a number. -/
  | provided (name : String) (number : Nat)
  deriving DecidableEq, Inhabited

/-- The name of an engine. -/
def Engine.name : Engine → String
  | .command checker => checker.name
  | .provided name _ => name

namespace Pass

/-- The part of the program that tells of passes. -/
def logTarget : String := "sift_core::invoker"

/-- What a pass keeps of a failure. -/
def failureOf : Ending Unit → Option CheckFailure
  | .done () | .lost => none
  | .failed e => some e
  | .panicked message => some (.crashed message)

/-- What is told of how a check has ended. -/
def endingLog (engine : String) : Ending Unit → Log
  | .done () | .lost => []
  | .failed e =>
      [{ level := .error, target := logTarget, message := "analysis pass failed"
         fields := [("engine", .text engine), ("error", .text e.message)] }]
  | .panicked message =>
      [{ level := .error, target := logTarget, message
         fields := [("engine", .text engine)] }]

/-- What is told at the end of a pass. -/
def finishedLog (engine : String) (pass : Pass) : LogRecord :=
  { level := .info, target := logTarget, message := "analysis pass finished"
    fields := [("engine", .text engine), ("files", .number pass.files.length),
      ("diagnostics", .number pass.findings.length)] }

/-- The pass that a check makes; none if nothing came back from it. -/
def ofResult? (engine : String) (files : List FilePath)
    (fingerprints : List (FilePath × Fingerprint)) (result : CheckResult) :
    Option Pass × Log :=
  let pass : Pass := ⟨files, fingerprints, result.findings, failureOf result.ending⟩
  match result.ending with
  | .lost => (none, [])
  | ending => (some pass, endingLog engine ending ++ [finishedLog engine pass])

/-- The pass that a check makes keeps its files and their fingerprints. -/
theorem files_of_ofResult {engine : String} {files : List FilePath}
    {fingerprints : List (FilePath × Fingerprint)} {result : CheckResult} {pass : Pass}
    (h : (ofResult? engine files fingerprints result).1 = some pass) :
    pass.files = files ∧ pass.fingerprints = fingerprints := by
  obtain ⟨findings, ending⟩ := result
  cases ending with
  | lost => simp [ofResult?] at h
  | done _ | failed _ | panicked _ =>
      obtain rfl := Option.some.inj h
      exact ⟨rfl, rfl⟩

/-- A pass counts as complete if the checker ended without an error. -/
theorem ofResult_complete {engine : String} {files : List FilePath}
    {fingerprints : List (FilePath × Fingerprint)} {result : CheckResult} {pass : Pass}
    (h : (ofResult? engine files fingerprints result).1 = some pass) :
    pass.isComplete = true ↔ result.ending = .done () := by
  obtain ⟨findings, ending⟩ := result
  cases ending <;> simp_all [ofResult?, isComplete, failureOf] <;> subst h <;> simp

end Pass

end PullDiagnostics
