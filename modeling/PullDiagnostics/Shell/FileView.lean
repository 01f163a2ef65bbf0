import PullDiagnostics.FileTree.Basic

/-!
# Files seen from a directory

Commands name files by paths that may start from the directory they run in. One name leads to
a device, which is always empty and takes everything that is written to it.
-/

namespace PullDiagnostics.Shell

/-- A tree of files, seen from a directory. -/
structure FileView where
  tree : FileTree
  /-- Where names start from that do not start from the root; nothing is known of it if it is
  empty. -/
  directory : Bytes := []

namespace FileView

/-- The path that a name stands for. -/
def resolve (v : FileView) (name : Bytes) : FilePath :=
  if v.directory.isEmpty || name.isEmpty || name.head? = some FilePath.slash then ⟨name⟩
  else if v.directory.getLast? = some FilePath.slash then ⟨v.directory ++ name⟩
  else ⟨v.directory ++ FilePath.slash :: name⟩

/-- The path that a name stands for, without dots as far as its text can tell. Two slashes at
its start are kept. -/
def plain (v : FileView) (name : Bytes) : Bytes :=
  let bytes := (v.resolve name).bytes
  let names := (bytes.splitOn FilePath.slash).foldl (fun names piece =>
    if FilePath.isIdle piece then names
    else if piece = [FilePath.dot, FilePath.dot] then names.dropLast
    else names ++ [piece]) ([] : List Bytes)
  let path :=
    if names.isEmpty then [FilePath.slash] else names.flatMap fun piece => FilePath.slash :: piece
  match bytes with
  | 0x2F :: 0x2F :: b :: _ => if b = FilePath.slash then path else FilePath.slash :: path
  | _ => path

/-- Whether a name leads to the device. -/
def isDevice (v : FileView) (name : Bytes) : Bool :=
  v.resolve name = .ofString "/dev/null"

/-- What a name leads to. -/
def find (v : FileView) (name : Bytes) : Except FileError FileNode :=
  if v.isDevice name then .ok (.file []) else v.tree.find (v.resolve name)

/-- The content of a file. -/
def read (v : FileView) (name : Bytes) : Except FileError Bytes :=
  match v.find name with
  | .ok (.file content) => .ok content
  | .ok _ => .error .isDirectory
  | .error e => .error e

/-- Whether a name leads to a directory. -/
def isDirectory (v : FileView) (name : Bytes) : Bool :=
  match v.find name with
  | .ok (.directory _) => true
  | _ => false

/-- Whether a name leads to a file that is no device. -/
def isFile (v : FileView) (name : Bytes) : Bool :=
  match v.find name with
  | .ok (.file _) => !v.isDevice name
  | _ => false

/-- Whether two names lead to one place. -/
def areSame (v : FileView) (a b : Bytes) : Bool :=
  match v.tree.locate (v.resolve a) {}, v.tree.locate (v.resolve b) {} with
  | .ok first, .ok second => first = second && (v.find a).isOk
  | _, _ => false

/-- The files below a name at any depth, as far as the fuel reaches: the name itself if it is
one. Links are followed if that is asked for. -/
def filesBelow (v : FileView) (followsLinks : Bool) : (fuel : Nat) → Bytes → List Bytes
  | 0, _ => []
  | fuel + 1, name =>
      match v.find name with
      | .ok (.directory entries) =>
          entries.flatMap fun (entry, node) =>
            match node with
            | .link _ =>
                if followsLinks then
                  v.filesBelow followsLinks fuel (name ++ FilePath.slash :: entry)
                else []
            | _ => v.filesBelow followsLinks fuel (name ++ FilePath.slash :: entry)
      | .ok _ => [name]
      | .error _ => []

/-- The files in a directory, at any depth that a path can have; or none if a name leads to no
directory. -/
def filesBelow? (v : FileView) (followsLinks : Bool) (name : Bytes) : Option (List Bytes) :=
  if v.isDirectory name then some (v.filesBelow followsLinks FileTree.maxPath name) else none

end FileView

end PullDiagnostics.Shell
