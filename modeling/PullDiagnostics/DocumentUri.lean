import PullDiagnostics.Url.File

/-!
# Names of documents

Clients, checkers and the file system spell one file in several ways: with one slash after
the scheme or three, with the local host or without, as a URL or as a bare path. A document
is named by one URL, whatever the spelling: where the spelling leads to a local path, the URL
of that path with its dot segments resolved; where it does not, the URL as it was given.
-/

namespace PullDiagnostics

/-- The name of a document. -/
structure DocumentUri where
  url : Url
  deriving DecidableEq, Inhabited

namespace DocumentUri

/-- The URL of a path, read again so that two dots are resolved. -/
def urlOfPath? (p : FilePath) : Option Url :=
  (Url.ofPath? p).bind fun u => (Url.parse u.write).toOption

/-- The name of the document that a URL leads to. -/
def ofUrl (u : Url) : DocumentUri :=
  if u.scheme = "file".toList then
    match u.toPath?.bind urlOfPath? with
    | some canonical => ⟨canonical⟩
    | none => ⟨u⟩
  else ⟨u⟩

/-- The name of the document at an absolute path. -/
def ofPath? (p : FilePath) : Option DocumentUri :=
  (urlOfPath? p).map fun u => ⟨u⟩

/-- Reads a URL or an absolute path. A scheme of one letter is a drive letter, and what
starts with one is no URL. -/
def parse? (text : List Char) : Option DocumentUri :=
  match Url.parse text with
  | .ok u => if 1 < u.scheme.length then some (ofUrl u) else ofPath? ⟨Utf8.encode text⟩
  | .error _ => ofPath? ⟨Utf8.encode text⟩

/-- Reads a URL or an absolute path. -/
def ofString? (s : String) : Option DocumentUri :=
  parse? s.toList

/-- The local path of a document. -/
def toPath? (d : DocumentUri) : Option FilePath :=
  if d.url.scheme = "file".toList then d.url.toPath? else none

/-- The text of a name. -/
def text (d : DocumentUri) : List Char :=
  d.url.write

/-- The text of a name as a string. -/
def render (d : DocumentUri) : String :=
  d.url.render

/-- Which of two names comes first: the one whose text does. -/
def before (a b : DocumentUri) : Bool :=
  decide (a.text < b.text)

/-- No document comes before itself. -/
theorem not_before_self (a : DocumentUri) : a.before a = false :=
  decide_eq_false (List.lt_irrefl _)

/-- The order of documents is asymmetric. -/
theorem not_before_of_before {a b : DocumentUri} (h : a.before b = true) :
    b.before a = false := by
  simp only [before, decide_eq_true_eq, decide_eq_false_iff_not] at h ⊢
  exact List.lt_asymm h

/-- What comes before a name comes before all that do not come before that name. -/
theorem before_of_not_before {a b c : DocumentUri} (hab : a.before b = true)
    (hcb : c.before b = false) : a.before c = true := by
  simp only [before, decide_eq_true_eq, decide_eq_false_iff_not] at hab hcb ⊢
  exact Decidable.byContradiction fun hac =>
    hcb (List.lt_of_le_of_lt (List.not_lt.mp hac) hab)

/-- A name put into a list in order, unless it is there. -/
def insertSorted (d : DocumentUri) : List DocumentUri → List DocumentUri
  | [] => [d]
  | e :: rest =>
      if d = e then e :: rest
      else if d.before e then d :: e :: rest
      else e :: insertSorted d rest

/-- Names in order, each once. -/
def sorted (names : List DocumentUri) : List DocumentUri :=
  names.foldl (fun acc d => insertSorted d acc) []

end DocumentUri

end PullDiagnostics
