import PullDiagnostics.Shell.Parser
import PullDiagnostics.Shell.State

/-!
# Directories of users

A tilde at the start of a word stands for the directory of a user: of the one whose name
follows it up to a slash, or of the own one. In the value of an assignment it may also stand
after a colon. Only text that is not quoted is looked at, and only if the whole name is such.

* `flatten_piecesAtColons`: the pieces of a value are all of it.
-/

namespace PullDiagnostics.Shell

/-- The text at the start of a word with a tilde replaced by a directory of a user, whose name
ends before a slash or where the text of a value goes on. -/
def replaceTilde (s : State) (inValue : Bool) (chars : List Char) (isLast : Bool) : Word :=
  match chars with
  | '~' :: rest =>
      let name := rest.takeWhile fun c => c ≠ '/' && !(inValue && c = ':')
      let left := rest.drop name.length
      match if left.isEmpty && !isLast then none else s.home? name with
      | some home => [.text (!home.isEmpty) home, .text false left]
      | none => [.text false chars]
  | _ => [.text false chars]

/-- The pieces of the text of a value, of which each one after the first starts after a colon. -/
def piecesAtColons : List Char → List (List Char)
  | [] => [[]]
  | c :: rest =>
      match piecesAtColons rest with
      | piece :: more => if c = ':' then [c] :: piece :: more else (c :: piece) :: more
      | [] => [[c]]

/-- Cutting at colons loses nothing, the colons being kept with the pieces. -/
theorem flatten_piecesAtColons (chars : List Char) : (piecesAtColons chars).flatten = chars := by
  induction chars with
  | nil => rfl
  | cons c rest ih =>
      simp only [piecesAtColons]
      cases h : piecesAtColons rest with
      | nil =>
          rw [h] at ih
          simp [← ih]
      | cons piece more =>
          rw [h] at ih
          by_cases hc : c = ':' <;> simp [hc, ← ih]

/-- A word with the tildes replaced that stand for directories of users: one at its start, and
in a value also those after colons. -/
def withHomes (s : State) (inValue : Bool) : (isStart : Bool) → Word → Word
  | _, [] => []
  | isStart, part :: rest =>
      match part with
      | .text false chars =>
          if inValue then
            let pieces := piecesAtColons chars
            let replaced := pieces.zipIdx.flatMap fun (piece, i) =>
              if i = 0 && !isStart then [WordPart.text false piece]
              else replaceTilde s true piece (i + 1 < pieces.length || rest.isEmpty)
            replaced ++ withHomes s inValue (chars.getLast? = some ':') rest
          else if isStart then replaceTilde s false chars rest.isEmpty ++ rest
          else part :: rest
      | _ => if inValue then part :: withHomes s inValue false rest else part :: rest

/-- Whether a word is written like an assignment. -/
def isSetting : Word → Bool
  | .text false chars :: _ => Parser.isAssignment chars
  | _ => false

/-- A word that is written like an assignment, with the tildes in its value replaced. -/
def withHomesInSetting (s : State) : Word → Word
  | .text false chars :: rest =>
      let name := chars.takeWhile (· ≠ '=') ++ ['=']
      .text false name :: withHomes s true true (.text false (chars.drop name.length) :: rest)
  | word => word

end PullDiagnostics.Shell
