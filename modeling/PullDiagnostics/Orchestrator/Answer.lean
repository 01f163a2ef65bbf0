import PullDiagnostics.Orchestrator.Basic

/-!
# Answers as values

What a client is told in reply to a query. Reports are always full ones: nothing refers to an
earlier report.
-/

namespace PullDiagnostics

/-- Diagnostics as a value. -/
def diagnosticsJson (diagnostics : List Diagnostic) : Json :=
  .array (diagnostics.map Diagnostic.toJson)

/-- What a report says of one document, as a value. -/
def WorkspaceItem.toJson (item : WorkspaceItem) : Json :=
  .ofMembers [("kind", .string "full"), ("uri", .string item.document.render),
    ("version", Json.ofOption .int item.version), ("items", diagnosticsJson item.diagnostics)]

/-- An answer as a value. -/
def Answer.toJson : Answer → Json
  | .document diagnostics =>
      .ofMembers [("kind", .string "full"), ("items", diagnosticsJson diagnostics)]
  | .workspace items => .ofMembers [("items", .array (items.map WorkspaceItem.toJson))]

end PullDiagnostics
