import PullDiagnostics.DocumentUri

/-!
# Findings

What a checker reports: a message about a place in a file. Lines and columns count from one;
a finding may have no place in its file at all.
-/

namespace PullDiagnostics

/-- How grave a checker holds a finding to be. -/
inductive Severity where
  | error
  | warning
  /-- A warning that the checker gives whatever its settings are. -/
  | mandatoryWarning
  | note
  | other
  deriving DecidableEq, Inhabited

/-- One finding of a checker. -/
structure Finding where
  path : FilePath
  line : Option Nat := none
  column : Option Nat := none
  /-- The column after the last one that the finding is about. -/
  endColumn : Option Nat := none
  severity : Severity
  message : String
  code : Option String := none
  deriving DecidableEq, Inhabited

/-- The document that a finding is about, if its path is absolute. -/
def Finding.uri? (f : Finding) : Option DocumentUri :=
  DocumentUri.ofPath? f.path

end PullDiagnostics
