import PullDiagnostics.Finding
import PullDiagnostics.Json.Basic

/-!
# Diagnostics

What a client shows: a finding with its place counted from zero, its severity on the scale of
the protocol, and the name of the checker it came from. A `Presenter` makes diagnostics of
findings.

* `Presenter.range?_eq_none_iff`: a finding has no range exactly if its line or its column is
  missing or zero.
-/

namespace PullDiagnostics

/-- The largest line or column. -/
def maxPosition : Nat := 0xFFFFFFFF

/-- A place in a text, counted from zero. -/
structure Position where
  line : Nat
  character : Nat
  deriving DecidableEq, Inhabited

/-- A stretch of text: from its start up to, but not including, its end. -/
structure TextRange where
  start : Position
  stop : Position
  deriving DecidableEq, Inhabited

/-- The severities of the protocol. -/
inductive Level where
  | error
  | warning
  | information
  | hint
  deriving DecidableEq, Inhabited

/-- The number of a level in the protocol. -/
def Level.number : Level → Nat
  | .error => 1
  | .warning => 2
  | .information => 3
  | .hint => 4

/-- A diagnostic as a client shows it. -/
structure Diagnostic where
  range : TextRange
  level : Level
  code : Option String
  source : String
  message : String
  deriving DecidableEq, Inhabited

/-- The level at which a finding is shown. -/
def Severity.level : Severity → Level
  | .error => .error
  | .warning | .mandatoryWarning => .warning
  | .note => .hint
  | .other => .information

/-- How findings are shown: under which name, and how wide where the checker gave no end. -/
structure Presenter where
  source : String
  spanWidth : Nat := 10
  deriving DecidableEq, Inhabited

namespace Presenter

/-- The column after the last one shown, counted from zero. An end that does not come after
the start counts as none. -/
def stopColumn (p : Presenter) (column : Nat) (endColumn : Option Nat) : Nat :=
  match endColumn with
  | some stop => if column < stop then stop - 1 else min (column - 1 + p.spanWidth) maxPosition
  | none => min (column - 1 + p.spanWidth) maxPosition

/-- The range of a finding, if the checker gave a place that counts from one. -/
def range? (p : Presenter) (f : Finding) : Option TextRange :=
  match f.line, f.column with
  | some (line + 1), some (column + 1) =>
      some ⟨⟨line, column⟩, ⟨line, p.stopColumn (column + 1) f.endColumn⟩⟩
  | _, _ => none

/-- The start of a document. -/
def documentStart : TextRange := ⟨⟨0, 0⟩, ⟨0, 0⟩⟩

/-- Shows a finding; one without a place is shown at the start of its document. -/
def present (p : Presenter) (f : Finding) : Diagnostic where
  range := (p.range? f).getD documentStart
  level := f.severity.level
  code := f.code
  source := p.source
  message := f.message

/-- Shows findings in order. -/
def presentAll (p : Presenter) (findings : List Finding) : List Diagnostic :=
  findings.map p.present

/-- A finding has a range if its line and its column are given and count from one. -/
theorem range?_eq_none_iff (p : Presenter) (f : Finding) :
    p.range? f = none ↔
      f.line = none ∨ f.line = some 0 ∨ f.column = none ∨ f.column = some 0 := by
  unfold range?
  rcases hl : f.line with _ | _ | line <;> rcases hc : f.column with _ | _ | column <;> simp

end Presenter

/-! ### In the protocol's terms -/

/-- A position as a value. -/
def Position.toJson (p : Position) : Json :=
  .ofMembers [("line", .nat p.line), ("character", .nat p.character)]

/-- A range as a value. -/
def TextRange.toJson (r : TextRange) : Json :=
  .ofMembers [("start", r.start.toJson), ("end", r.stop.toJson)]

/-- A diagnostic as a value; a code that there is not is left out. -/
def Diagnostic.toJson (d : Diagnostic) : Json :=
  .ofMembers ([("range", d.range.toJson), ("severity", .nat d.level.number),
    ("source", .string d.source), ("message", .string d.message)] ++
    (match d.code with | none => [] | some code => [("code", .string code)]))

end PullDiagnostics
