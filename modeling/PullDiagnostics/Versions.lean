import PullDiagnostics.DocumentMap

/-!
# Versions of open documents

A client numbers the states of a document while it is open. The last number of each open
document is remembered; a change that comes late, with a smaller number than one before it,
is passed over.

* `get?_opened`, `get?_changed`, `get?_closed`: what is remembered after each event.
-/

namespace PullDiagnostics

/-- The numbers of the open documents. -/
structure Versions where
  latest : DocumentMap Int := .empty
  deriving DecidableEq, Inhabited

namespace Versions

/-- The number of an open document. -/
def get? (vs : Versions) (d : DocumentUri) : Option Int :=
  vs.latest.get? d

/-- A document was opened. -/
def opened (vs : Versions) (d : DocumentUri) (version : Int) : Versions :=
  ⟨vs.latest.put d version⟩

/-- Whether a change has come in order. -/
def accepts (vs : Versions) (d : DocumentUri) (version : Int) : Bool :=
  match vs.get? d with
  | some current => current ≤ version
  | none => true

/-- A document was changed. -/
def changed (vs : Versions) (d : DocumentUri) (version : Int) : Versions :=
  if vs.accepts d version then ⟨vs.latest.put d version⟩ else vs

/-- A document was closed. -/
def closed (vs : Versions) (d : DocumentUri) : Versions :=
  ⟨vs.latest.erase d⟩

/-- The open documents in order. -/
def documents (vs : Versions) : List DocumentUri :=
  vs.latest.documents

/-- The open documents in order, with their numbers. -/
def entries (vs : Versions) : List (DocumentUri × Int) :=
  vs.latest.entries

/-- Opening a document sets its version, whatever it was. -/
theorem get?_opened (vs : Versions) (d e : DocumentUri) (version : Int) :
    (vs.opened d version).get? e = if e = d then some version else vs.get? e :=
  vs.latest.get?_put d e version

/-- A change sets the version of its document if it is accepted. -/
theorem get?_changed (vs : Versions) (d e : DocumentUri) (version : Int) :
    (vs.changed d version).get? e =
      if e = d ∧ vs.accepts d version = true then some version else vs.get? e := by
  unfold changed
  split
  · rename_i h
    simp only [h, and_true]
    exact vs.latest.get?_put d e version
  · rename_i h
    simp [h]

/-- Closing a document forgets its version. -/
theorem get?_closed (vs : Versions) (d e : DocumentUri) :
    (vs.closed d).get? e = if e = d then none else vs.get? e :=
  vs.latest.get?_erase d e

end Versions

end PullDiagnostics
