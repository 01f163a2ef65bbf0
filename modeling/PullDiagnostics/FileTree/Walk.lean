import PullDiagnostics.Ignore.Scope

/-!
# Walking a file tree

A walk starts at a directory and meets the files below it, directories before what is in
them. Links are followed, except to a directory that the walk is in already. What the rules
of the directories say is ignored is not met, and nothing below it; the rules of directories
above the start count too, but the start itself is never ignored.
-/

namespace PullDiagnostics.FileTree

/-- What a walk meets. -/
inductive WalkItem where
  | file (path : FilePath)
  /-- Something that could not be read. -/
  | problem (text : String)
  deriving DecidableEq, Inhabited

mutual

/-- The number of directories of a node. -/
def directoryCount : FileNode → Nat
  | .directory entries => 1 + entriesCount entries
  | _ => 0

/-- The number of directories below entries. -/
def entriesCount : List (Bytes × FileNode) → Nat
  | [] => 0
  | (_, node) :: rest => directoryCount node + entriesCount rest

end

/-- What goes with a directory that a walk is in. -/
structure Walker where
  /-- The directory as the walk spells it. -/
  path : FilePath
  /-- Where the directory is. -/
  place : List Bytes
  /-- The names that lead to the directory, the last one first. -/
  names : List Bytes
  /-- The rules of the directory and of those above it. -/
  scopes : List Ignore.Scope
  /-- The directories that the walk is in, the deepest first. -/
  ancestors : List (List Bytes × FilePath)

/-- What is told of something that cannot be read. -/
def unreadable (path : FilePath) (e : FileError) : String :=
  path.display ++ ": IO error for operation on " ++ path.display ++ ": " ++ e.message

/-- What is told of a link to a directory that the walk is in. -/
def loops (path ancestor : FilePath) : String :=
  "File system loop found: " ++ path.display ++ " points to an ancestor " ++ ancestor.display

/-- The walk inside a directory. Every directory on the way down takes one unit of fuel. -/
def walkInside (t : FileTree) : (fuel : Nat) → Walker → List WalkItem
  | 0, _ => []
  | fuel + 1, w =>
      match t.root.get? w.place with
      | some (.directory entries) =>
          entries.flatMap fun (name, node) =>
            let path := w.path.join ⟨name⟩
            match t.locate path {} with
            | .error e => [.problem (unreadable path e)]
            | .ok place =>
                match t.root.get? place with
                | some (.directory _) =>
                    let isLink : Bool := match node with | .link _ => true | _ => false
                    let names := name :: w.names
                    match w.ancestors.find? fun (at_, _) => isLink && at_ == place with
                    | some (_, ancestor) => [.problem (loops path ancestor)]
                    | none =>
                        if Ignore.isIgnored w.scopes names true then []
                        else
                          t.walkInside fuel
                            { path, place, names
                              scopes := (Ignore.Scope.load t path).1 :: w.scopes
                              ancestors := (place, path) :: w.ancestors }
                | _ =>
                    if Ignore.isIgnored w.scopes (name :: w.names) false then []
                    else [.file path]
      | _ => []

/-- The rules of the directories above a place, the deepest first, and what is wrong with
them. -/
def scopesAbove (t : FileTree) (place : List Bytes) : List Ignore.Scope × List String :=
  let above := (List.range place.length).map fun n =>
    (⟨FilePath.slash :: List.intercalate [FilePath.slash] (place.take n)⟩ : FilePath)
  let loaded := above.map (Ignore.Scope.load t)
  ((loaded.map (·.1)).reverse, loaded.flatMap (·.2))

/-- The walk from a directory. On a way down every link leads to a directory that is not yet
on the way, and between two links the way only goes deeper, so that the square of the number
of directories is fuel enough. -/
def walkFrom (t : FileTree) (start : FilePath) : List WalkItem :=
  match t.locate start {} with
  | .error e => [.problem (unreadable start e)]
  | .ok place =>
      let (above, problems) := t.scopesAbove place
      let told := if problems.isEmpty then [] else [.problem ("\n".intercalate problems)]
      let count := directoryCount t.root + 1
      told ++ t.walkInside (count * count)
        { path := start, place, names := place.reverse
          scopes := (Ignore.Scope.load t start).1 :: above
          ancestors := [(place, start)] }

end PullDiagnostics.FileTree
