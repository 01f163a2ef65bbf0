import PullDiagnostics.FileTree.Basic
import PullDiagnostics.Shell.Pattern

/-!
# Pathnames that match

A field with a pattern in it stands for the paths that match, in the order of their bytes. No
part of a path is matched by a pattern over a slash, and a name that begins with a dot only
by a pattern that begins with one.
-/

namespace PullDiagnostics.Shell

/-- Whether bytes of a field, each with whether it is quoted, hold a pattern. -/
def isPathPattern (field : List (Bool × UInt8)) : Bool :=
  field.any fun (quoted, b) => !quoted && (b = 0x2A || b = 0x3F || b = 0x5B)

/-- Whether a pattern for one name matches it. -/
def matchesName (pattern : List (Bool × UInt8)) (name : Bytes) : Bool :=
  (name.head? ≠ some 0x2E || (pattern.head?.map (·.2)) = some 0x2E) &&
    PatternPart.accepts (PatternPart.ofMarked pattern) name

/-- The names in a directory, with those of itself and of the one above it. -/
def namesIn (t : FileTree) (directory : FilePath) : List Bytes :=
  match t.find directory with
  | .ok (.directory entries) =>
      [FilePath.dot] :: [FilePath.dot, FilePath.dot] :: entries.map (·.1)
  | _ => []

/-- The paths that patterns for one name after the other lead to from a path. -/
def pathsFrom (t : FileTree) (resolve : Bytes → FilePath) :
    (start : Bytes) → List (List (Bool × UInt8)) → List Bytes
  | start, [] => if (t.findLink (resolve start)).isOk then [start] else []
  | start, pattern :: rest =>
      let slash : Bytes := if rest.isEmpty then [] else [FilePath.slash]
      if isPathPattern pattern then
        let directory : Bytes := if start.isEmpty then [0x2E] else start
        (namesIn t (resolve directory)).flatMap fun name =>
          if matchesName pattern name then pathsFrom t resolve (start ++ name ++ slash) rest else []
      else pathsFrom t resolve (start ++ pattern.map (·.2) ++ slash) rest

/-- The pieces of a field between slashes. -/
def splitAtSlashes : List (Bool × UInt8) → List (List (Bool × UInt8))
  | [] => [[]]
  | b :: rest =>
      if b.2 = FilePath.slash then [] :: splitAtSlashes rest
      else
        match splitAtSlashes rest with
        | piece :: more => (b :: piece) :: more
        | [] => [[b]]

/-- What a field stands for: the paths that match, or itself if none does. -/
def matchingPaths (t : FileTree) (resolve : Bytes → FilePath) (field : List (Bool × UInt8)) :
    List Bytes :=
  let plain := field.map (·.2)
  if isPathPattern field then
    let found := pathsFrom t resolve [] (splitAtSlashes field)
    if found.isEmpty then [plain] else found.mergeSort fun a b => !Bytes.before b a
  else [plain]

end PullDiagnostics.Shell
