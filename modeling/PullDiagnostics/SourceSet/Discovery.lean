import PullDiagnostics.FileTree.Walk
import PullDiagnostics.Log
import PullDiagnostics.SourceSet.Basic

/-!
# Discovery of source files

The files of a source set are found by a walk from each root. A file is taken if it has one
of the extensions and its path below the root that it was found from is not excluded. The
result is in order and holds each path once.
-/

namespace PullDiagnostics.SourceSet

/-- The part of the program that tells of discovery. -/
def logTarget : String := "sift_core::workspace"

/-- Whether a file that a walk from a root has met belongs to a source set. -/
def takes (s : SourceSet) (root p : FilePath) : Bool :=
  s.hasExtension p && !s.excludes ((p.stripPrefix? root).getD p)

/-- The files that a walk has met. -/
def walkedFiles (items : List FileTree.WalkItem) : List FilePath :=
  items.filterMap fun
    | .file p => some p
    | .problem _ => none

/-- The files of a source set under one root. -/
def filesUnder (s : SourceSet) (t : FileTree) (root : FilePath) : List FilePath :=
  if t.isDirectory root then (walkedFiles (t.walkFrom root)).filter (s.takes root) else []

/-- The files of a source set. -/
def discover (s : SourceSet) (t : FileTree) : List FilePath :=
  FilePath.sortedUnion (s.roots.flatMap (s.filesUnder t))

/-- The files found under a single root are those of its walk that the source set takes. -/
theorem discover_of_walkFrom {s : SourceSet} {t : FileTree} {root : FilePath}
    {items : List FileTree.WalkItem} (hroots : s.roots = [root])
    (hdirectory : t.isDirectory root = true) (hwalk : t.walkFrom root = items) :
    s.discover t = FilePath.sortedUnion ((walkedFiles items).filter (s.takes root)) := by
  simp [discover, filesUnder, hroots, hdirectory, hwalk]

/-- What is told of the search under one root. -/
def rootLog (t : FileTree) (root : FilePath) : Log :=
  if t.isDirectory root then
    (t.walkFrom root).filterMap fun
      | .file _ => none
      | .problem text => some
          { level := .warn, target := logTarget, message := "skipping unreadable workspace entry"
            fields := [("root", .text root.display), ("error", .text text)] }
  else
    [{ level := .warn, target := logTarget
       message := "workspace root is not a readable directory, skipping"
       fields := [("root", .text root.display)] }]

/-- What is told of the search for the files of a source set. -/
def discoveryLog (s : SourceSet) (t : FileTree) : Log :=
  s.roots.flatMap (rootLog t)

end PullDiagnostics.SourceSet
