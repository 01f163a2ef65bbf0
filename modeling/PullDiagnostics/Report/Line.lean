import PullDiagnostics.Finding
import PullDiagnostics.Text.Blank

/-!
# Lines of a report

A checker of the compiler family writes one header line for each finding,
`path:line: kind: message`, and below it what it likes to add: the line of source it means,
a caret under the column, and indented details. At the end it may sum up how many errors
and warnings there were. This module tells the kinds of lines apart.
-/

namespace PullDiagnostics.Report

/-- What a header line says. -/
structure Header where
  path : FilePath
  line : Nat
  severity : Severity
  message : List Char
  code : Option (List Char)
  deriving DecidableEq, Inhabited

/-- Kinds of warnings that are given whether they are asked for or not. -/
def mandatoryKinds : List (List Char) :=
  ["deprecation", "removal", "unchecked", "preview"].map String.toList

/-- The largest line number. -/
def maxLine : Nat := 0xFFFFFFFF

/-- The largest column. -/
def maxColumn : Nat := 0xFFFFFFFF

/-- The texts before and after each colon. -/
def colonSplits : List Char → List (List Char × List Char)
  | [] => []
  | c :: rest =>
      let later := (colonSplits rest).map fun (before, after) => (c :: before, after)
      if c = ':' then ([], rest) :: later else later

/-- Whether a character may stand in the kind of a finding. -/
def isKindChar (c : Char) : Bool :=
  c.isAlpha || c = '-'

/-- The severity that a kind in lower case names. -/
def severityOf (kind : List Char) : Severity :=
  if kind = "error".toList then .error
  else if kind = "warning".toList then .warning
  else if kind = "note".toList then .note
  else .other

/-- The kind and the message of the text after a line number. -/
def splitKind (body : List Char) : List Char × List Char :=
  match Text.splitOnce ':' body with
  | some (kind, message) =>
      if !kind.isEmpty && kind.all isKindChar then
        (kind.map Char.toLower, Text.trimStart message)
      else ([], body)
  | none => ([], body)

/-- The text between brackets at the start of a message, and what follows it. -/
def splitTag (message : List Char) : Option (List Char × List Char) :=
  match message with
  | '[' :: tagged => Text.splitOnce ']' tagged
  | _ => none

/-- Reads the text after a line number. A warning may start with its kind in brackets. -/
def classify (body : List Char) : Severity × List Char × Option (List Char) :=
  let (kind, message) := splitKind body
  match severityOf kind, splitTag message with
  | .warning, some (tag, text) =>
      (if mandatoryKinds.contains tag then .mandatoryWarning else .warning,
        Text.trimStart text, some tag)
  | severity, _ => (severity, message, none)

/-- Reads a header whose path ends at a given colon. -/
def headerAt? (before after : List Char) : Option Header :=
  let path : FilePath := ⟨Utf8.encode before⟩
  let digits := after.takeWhile Text.isDigit
  match after.drop digits.length with
  | ':' :: body =>
      if Text.isBlankText before || path.extension?.isNone || digits.isEmpty
          || maxLine < Text.numeral digits then none
      else
        let (severity, message, code) := classify (Text.trimStart body)
        some ⟨path, Text.numeral digits, severity, message, code⟩
  | _ => none

/-- Reads a header line. The path ends at the first colon that makes the line a header. -/
def header? (line : List Char) : Option Header :=
  (colonSplits line).findSome? fun (before, after) => headerAt? before after

/-- Whether a line starts with a blank. -/
def isIndented (line : List Char) : Bool :=
  line.head? = some ' ' || line.head? = some '\t'

/-- The column of a line that holds nothing but a caret; none beyond the largest column. -/
def caretColumn? (line : List Char) : Option Nat :=
  match (Text.trimEnd line).reverse with
  | '^' :: margin =>
      if (margin.all fun c => c = ' ' || c = '\t') && margin.length < maxColumn then
        some (margin.length + 1)
      else none
  | _ => none

/-- The words of a line that sums up, after the number. -/
def summaryNouns : List (List Char) :=
  ["error", "errors", "warning", "warnings"].map String.toList

/-- Whether a line sums up. -/
def isSummary (line : List Char) : Bool :=
  match Text.splitOnce ' ' (Text.trim line) with
  | some (count, noun) =>
      !count.isEmpty && count.all Text.isDigit && summaryNouns.contains noun
  | none => false

end PullDiagnostics.Report
