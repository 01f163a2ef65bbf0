import PullDiagnostics.LogFilter

/-!
# Log records

What the program has to say of its own work, besides its answers. Functions return their
records in the order in which they were made.
-/

namespace PullDiagnostics

/-- A value that goes with a record. -/
inductive LogValue where
  | number (n : Nat)
  | text (s : String)
  deriving DecidableEq, Inhabited

/-- One line of the log. -/
structure LogRecord where
  level : Verbosity
  /-- The part of the program that speaks. -/
  target : String
  message : String
  fields : List (String × LogValue) := []
  deriving DecidableEq, Inhabited

/-- The names of the fields of a record; what it says is one of them. -/
def LogRecord.fieldNames (r : LogRecord) : List (List Char) :=
  "message".toList :: r.fields.map (·.1.toList)

/-- Log records in the order in which they were made. -/
abbrev Log := List LogRecord

end PullDiagnostics
