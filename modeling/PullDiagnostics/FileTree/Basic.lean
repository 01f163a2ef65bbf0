import PullDiagnostics.FilePath

/-!
# File trees

The files that the program sees: a tree of directories, files and links. A path is followed
from the root; a link on the way is followed too, and a path that goes through too many of
them leads nowhere. All operations are on the place that a path leads to, which is a list of
names from the root without links and dots.
-/

namespace PullDiagnostics

/-- What there is at a place. -/
inductive FileNode where
  | file (content : Bytes)
  | directory (entries : List (Bytes × FileNode))
  | link (target : Bytes)
  deriving Inhabited

/-- Why a path cannot be used. -/
inductive FileError where
  | notFound
  | notDirectory
  | isDirectory
  | tooManyLinks
  | exists
  | denied
  | nameTooLong
  /-- A byte that no path holds. -/
  | nulByte
  /-- A file that should hold text and does not. -/
  | notText
  deriving DecidableEq, Inhabited

/-- What is wrong, in words. -/
def FileError.reason : FileError → String
  | .notFound => "No such file or directory"
  | .notDirectory => "Not a directory"
  | .isDirectory => "Is a directory"
  | .tooManyLinks => "Too many levels of symbolic links"
  | .exists => "File exists"
  | .denied => "Permission denied"
  | .nameTooLong => "File name too long"
  | .nulByte => "file name contained an unexpected NUL byte"
  | .notText => "stream did not contain valid UTF-8"

/-- The number that the system has for an error. -/
def FileError.number? : FileError → Option Nat
  | .notFound => some 2
  | .notDirectory => some 20
  | .isDirectory => some 21
  | .tooManyLinks => some 40
  | .exists => some 17
  | .denied => some 13
  | .nameTooLong => some 36
  | .nulByte | .notText => none

/-- What is said of an error: the reason, and the number of those that the system has one
for. -/
def FileError.message (e : FileError) : String :=
  match e.number? with
  | some n => e.reason ++ " (os error " ++ toString n ++ ")"
  | none => e.reason

namespace FileNode

/-- The entry of a name in a list. -/
def child? (name : Bytes) : List (Bytes × FileNode) → Option FileNode
  | [] => none
  | (n, node) :: rest => if n = name then some node else child? name rest

/-- A list with an entry put in, or put in place of the one with its name. -/
def putEntry (name : Bytes) (node : FileNode) :
    List (Bytes × FileNode) → List (Bytes × FileNode)
  | [] => [(name, node)]
  | (n, old) :: rest =>
      if n = name then (name, node) :: rest else (n, old) :: putEntry name node rest

/-- A list without the entry of a name. -/
def dropEntry (name : Bytes) (entries : List (Bytes × FileNode)) : List (Bytes × FileNode) :=
  entries.filter fun (n, _) => n != name

/-- What there is at a place below a node. -/
def get? (node : FileNode) : List Bytes → Option FileNode
  | [] => some node
  | name :: rest =>
      match node with
      | .directory entries => (child? name entries).bind fun child => child.get? rest
      | _ => none

/-- A node with its entries at a place below it changed, if there is a directory there. -/
def alter (node : FileNode) (place : List Bytes)
    (f : List (Bytes × FileNode) → List (Bytes × FileNode)) : FileNode :=
  match node, place with
  | .directory entries, [] => .directory (f entries)
  | .directory entries, name :: rest =>
      match child? name entries with
      | some child => .directory (putEntry name (child.alter rest f) entries)
      | none => .directory entries
  | other, _ => other

end FileNode

/-- A tree of files. -/
structure FileTree where
  root : FileNode := .directory []
  deriving Inhabited

namespace FileTree

/-- The longest name and the longest path. -/
def maxName : Nat := 255

/-- The longest path. -/
def maxPath : Nat := 4095

/-- The number of links that a path may go through. -/
def maxLinks : Nat := 40

/-- How a path is followed: whether a link at its end is followed, and whether what it leads
to may be missing. -/
structure Follow where
  lastLink : Bool := true
  missing : Bool := false

/-- Follows pieces of a path from a place. -/
def walk (root : FileNode) (how : Follow) (links : Nat) (place : List Bytes) :
    List Bytes → Except FileError (List Bytes)
  | [] => .ok place
  | piece :: rest =>
      match root.get? place with
      | some (.directory entries) =>
          if FilePath.isIdle piece then walk root how links place rest
          else if piece = [FilePath.dot, FilePath.dot] then
            walk root how links place.dropLast rest
          else if maxName < piece.length then .error .nameTooLong
          else
            match FileNode.child? piece entries with
            | none =>
                if rest.isEmpty && how.missing then .ok (place ++ [piece]) else .error .notFound
            | some (.link target) =>
                if rest.isEmpty && !how.lastLink then .ok (place ++ [piece])
                else
                  match links with
                  | 0 => .error .tooManyLinks
                  | links + 1 =>
                      let start := if target.head? = some FilePath.slash then [] else place
                      walk root how links start (target.splitOn FilePath.slash ++ rest)
            | some _ => walk root how links (place ++ [piece]) rest
      | some _ => .error .notDirectory
      | none => .error .notFound
termination_by pieces => (links, pieces.length)

/-- The place that a path leads to. Relative paths lead nowhere. -/
def locate (t : FileTree) (p : FilePath) (how : Follow) : Except FileError (List Bytes) :=
  if p.bytes.contains 0 then .error .nulByte
  else if maxPath < p.bytes.length then .error .nameTooLong
  else if p.isAbsolute then walk t.root how maxLinks [] (p.bytes.splitOn FilePath.slash)
  else .error .notFound

/-- What a path leads to. -/
def find (t : FileTree) (p : FilePath) : Except FileError FileNode :=
  match t.locate p {} with
  | .error e => .error e
  | .ok place =>
      match t.root.get? place with
      | some node => .ok node
      | none => .error .notFound

/-- What there is at a path itself, be it a link. -/
def findLink (t : FileTree) (p : FilePath) : Except FileError FileNode :=
  match t.locate p { lastLink := false } with
  | .error e => .error e
  | .ok place =>
      match t.root.get? place with
      | some node => .ok node
      | none => .error .notFound

/-- The content of a file. -/
def read (t : FileTree) (p : FilePath) : Except FileError Bytes :=
  match t.find p with
  | .error e => .error e
  | .ok (.file content) => .ok content
  | .ok _ => .error .isDirectory

/-- A file that can be read is at the place that its path leads to. -/
theorem read_eq_ok_iff {t : FileTree} {p : FilePath} {content : Bytes} :
    t.read p = .ok content ↔
      ∃ place, t.locate p {} = .ok place ∧ t.root.get? place = some (.file content) := by
  unfold read find
  cases hplace : t.locate p {} with
  | error e => simp
  | ok place =>
      cases hnode : t.root.get? place with
      | none => simp [hnode]
      | some node => cases node <;> simp [hnode]

/-- Whether a path leads to a directory. -/
def isDirectory (t : FileTree) (p : FilePath) : Bool :=
  match t.find p with
  | .ok (.directory _) => true
  | _ => false

/-- Whether a path leads to anything. -/
def contains (t : FileTree) (p : FilePath) : Bool :=
  (t.find p).toBool

/-- Puts a node at a place. -/
def put (t : FileTree) (place : List Bytes) (node : FileNode) : FileTree :=
  match place.getLast? with
  | none => t
  | some name => ⟨t.root.alter place.dropLast (FileNode.putEntry name node)⟩

/-- Makes a directory where its parent is one. -/
def makeDirectory (t : FileTree) (p : FilePath) (isLast : Bool) : Except FileError FileTree :=
  match t.find p with
  | .ok (.directory _) => .ok t
  | .ok _ => .error (if isLast then .exists else .notDirectory)
  | .error .notFound =>
      match t.findLink p, t.locate p { missing := true } with
      | .ok _, _ => .error .exists
      | .error _, .ok place => .ok (t.put place (.directory []))
      | .error _, .error e => .error e
  | .error e => .error e

/-- The paths that are beginnings of a path, the shortest first. -/
def beginnings (p : FilePath) : List FilePath :=
  let parts := p.bytes.splitOn FilePath.slash
  (List.range parts.length).map fun n =>
    let start := List.intercalate [FilePath.slash] (parts.take (n + 1))
    if start.isEmpty then ⟨[FilePath.slash]⟩ else ⟨start⟩

/-- Makes a directory and all those above it that are missing. -/
def makeDirectories (t : FileTree) (p : FilePath) : Except FileError FileTree :=
  let steps := beginnings p
  steps.zipIdx.foldlM (fun tree (start, i) =>
    tree.makeDirectory start (i + 1 == steps.length)) t

/-- The path of the directory that a path lies in. -/
def parentPath (p : FilePath) : FilePath :=
  let parts := (p.bytes.splitOn FilePath.slash).reverse.dropWhile FilePath.isIdle
  ⟨List.intercalate [FilePath.slash] parts.tail.reverse⟩

/-- The path of the directory above the last name of a path, as one that leads to nothing but a
directory. -/
def above (p : FilePath) : FilePath :=
  let parts := (p.bytes.splitOn FilePath.slash).reverse.dropWhile (·.isEmpty)
  ⟨List.intercalate [FilePath.slash] ([] :: if parts.isEmpty then [[]] else parts.tail).reverse⟩

/-- Writes a file where its directory exists. A path with a slash at its end names no file. -/
def writeFile (t : FileTree) (p : FilePath) (content : Bytes) : Except FileError FileTree :=
  if p.bytes.getLast? = some FilePath.slash then
    (t.locate (above p) {}).bind fun _ => .error .isDirectory
  else
    match t.locate p { missing := true } with
    | .error e => .error e
    | .ok place =>
        match t.root.get? place with
        | some (.directory _) => .error .isDirectory
        | _ => .ok (t.put place (.file content))

/-- Writes a file, making the directories that are missing. -/
def write (t : FileTree) (p : FilePath) (content : Bytes) : Except FileError FileTree :=
  match t.makeDirectories (parentPath p) with
  | .error e => .error e
  | .ok tree => tree.writeFile p content

/-- Removes what there is at a path, with all below it; a link and not what it leads to. -/
def delete (t : FileTree) (p : FilePath) : Except FileError FileTree :=
  match t.locate p { lastLink := false } with
  | .error e => .error e
  | .ok place =>
      match place.getLast? with
      | none => .error .denied
      | some name => .ok ⟨t.root.alter place.dropLast (FileNode.dropEntry name)⟩

/-- Makes a link. -/
def makeLink (t : FileTree) (p : FilePath) (target : Bytes) : Except FileError FileTree :=
  match t.locate p { lastLink := false, missing := true } with
  | .error e => .error e
  | .ok place =>
      match t.root.get? place with
      | some _ => .error .exists
      | none => .ok (t.put place (.link target))

end FileTree

end PullDiagnostics
