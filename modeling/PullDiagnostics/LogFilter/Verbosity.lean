import PullDiagnostics.Text.Blank

/-!
# Verbosity

How much is logged, from nothing to everything. A level is written as its name and read as its
name in letters of either case or as its number.
-/

namespace PullDiagnostics

/-- How much is logged. -/
inductive Verbosity where
  | off
  | error
  | warn
  | info
  | debug
  | trace
  deriving DecidableEq, Inhabited

namespace Verbosity

/-- The name of a level. -/
def name : Verbosity → String
  | .off => "off"
  | .error => "error"
  | .warn => "warn"
  | .info => "info"
  | .debug => "debug"
  | .trace => "trace"

/-- How much a level lets through. -/
def rank : Verbosity → Nat
  | .off => 0
  | .error => 1
  | .warn => 2
  | .info => 3
  | .debug => 4
  | .trace => 5

/-- All levels, each at the place of its number. -/
def all : List Verbosity :=
  [.off, .error, .warn, .info, .debug, .trace]

/-- Reads a level. -/
def parse? (text : List Char) : Option Verbosity :=
  let digits := match text with | '+' :: rest => rest | _ => text
  if !digits.isEmpty && digits.all Text.isDigit then all[Text.numeral digits]?
  else all.find? fun v => v.name.toList == text.map Char.toLower

end Verbosity

end PullDiagnostics
