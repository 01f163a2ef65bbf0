import PullDiagnostics.LogFilter.Directive

/-!
# Log filters

A filter says how much of each part of the program is logged. It is written as directives
between commas. The most specific directive that applies decides, so a filter keeps its
directives in that order, and holds one directive about each thing.
-/

namespace PullDiagnostics

/-- A filter: directives that apply by the kind of a record alone, and directives that depend
on the span it is made in. One that names a field but no span and no value is among both. -/
structure LogFilter where
  byKind : List LogDirective := []
  bySpan : List LogDirective := []
  deriving DecidableEq, Inhabited

namespace LogFilter

/-- A filter with one directive more. -/
def add (f : LogFilter) (d : LogDirective) : LogFilter where
  byKind := if d.appliesByKind then d.insert f.byKind else f.byKind
  bySpan := if d.dependsOnSpan then d.insert f.bySpan else f.bySpan

/-- Reads a filter. Empty directives do not count. -/
def parse? (text : String) : Option LogFilter :=
  let parts := (text.toList.splitOn ',').filter (!·.isEmpty)
  (parts.mapM LogDirective.parse?).map fun directives => directives.foldl add {}

/-- The text of a filter. -/
def render (f : LogFilter) : String :=
  String.ofList (List.intercalate [','] ((f.byKind ++ f.bySpan).map LogDirective.render))

/-- Whether a filter lets a record through that is made in no span. The directive that says
most about it decides; without one, nothing passes. -/
def admits (f : LogFilter) (target : List Char) (fields : List (List Char))
    (level : Verbosity) : Bool :=
  match f.byKind.find? (·.concerns target fields) with
  | some d => level.rank ≤ d.level.rank
  | none => false

/-- The filter that holds when none is given. -/
def standard : LogFilter :=
  (parse? "sift=info,sift_core=info,tower_lsp=warn").getD {}

/-- What is said of a text that is no filter. -/
def invalidMessage (text : String) : String :=
  "invalid log filter `" ++ text ++ "`"

/-- The filter that a directive on the command line and the environment lead to: the first
has to be a filter, the second is passed over if it is none. -/
def choose (directive environment : Option String) : Except String LogFilter :=
  match directive with
  | some text =>
      match parse? text with
      | some f => .ok f
      | none => .error (invalidMessage text)
  | none => .ok ((environment.bind parse?).getD standard)

end LogFilter

end PullDiagnostics
