import PullDiagnostics.Report.Line
import PullDiagnostics.Text.Line

/-!
# Reading reports

A finding is drafted from its header and takes up lines until one comes that cannot belong
to it. Before the caret each indented line may turn out to be the echo of the source, so the
last one is held back: a caret drops it, anything else makes it a detail. After the caret
indented lines are details, and any other line ends the finding.
-/

namespace PullDiagnostics.Report

/-- What has been seen below a header. -/
inductive Below where
  /-- No caret yet; the last line is held back. -/
  | noCaret (held : Option (List Char))
  /-- A caret under a column. -/
  | caret (column : Nat)
  deriving DecidableEq, Inhabited

/-- A finding whose lines are being read. -/
structure Draft where
  header : Header
  details : List (List Char) := []
  below : Below := .noCaret none
  deriving DecidableEq, Inhabited

namespace Draft

/-- The details of a draft once the line that is held back cannot be followed by a caret any
more. -/
def settled (d : Draft) : List (List Char) :=
  match d.below with
  | .noCaret (some held) =>
      if isIndented held then d.details ++ [Text.trim held] else d.details
  | _ => d.details

/-- Takes up a line; `none` if the line does not belong to the finding. A line that is not
indented can only be the echo of the source, and only right below the header. -/
def push (d : Draft) (line : List Char) : Option Draft :=
  if Text.isBlankText line then some d
  else
    match d.below with
    | .caret _ =>
        if isIndented line then some { d with details := d.details ++ [Text.trim line] }
        else none
    | .noCaret held =>
        match caretColumn? line with
        | some column => some { d with below := .caret column }
        | none =>
            if held.any (!isIndented ·) || (!isIndented line && !d.settled.isEmpty) then none
            else some { d with details := d.settled, below := .noCaret (some line) }

/-- The finding that a draft has become. -/
def finish (d : Draft) : Finding where
  path := d.header.path
  line := some d.header.line
  column :=
    match d.below with
    | .caret column => some column
    | .noCaret _ => none
  severity := d.header.severity
  message := String.ofList (List.intercalate ['\n'] (d.header.message :: d.settled))
  code := d.header.code.map String.ofList

end Draft

/-- Reads lines, a draft being open or not. -/
def readLines : Option Draft → List (List Char) → List Finding
  | draft, [] => draft.toList.map Draft.finish
  | draft, line :: rest =>
      match header? line with
      | some header => draft.toList.map Draft.finish ++ readLines (some { header }) rest
      | none =>
          if isSummary line then draft.toList.map Draft.finish ++ readLines none rest
          else
            match draft with
            | none => readLines none rest
            | some d =>
                match d.push line with
                | some more => readLines (some more) rest
                | none => d.finish :: readLines none rest

/-- The findings in a report, in order. -/
def parse (text : List Char) : List Finding :=
  readLines none (Text.lines text)

end PullDiagnostics.Report
