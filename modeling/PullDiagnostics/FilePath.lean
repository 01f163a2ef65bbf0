import PullDiagnostics.Text.Utf8

/-!
# File paths

A path is a byte string; slashes separate its pieces. What a path means is its list of
components: empty pieces and dots between slashes mean nothing, a slash at the start means
the root, and two dots are kept, for what they lead to depends on links. Two paths are the
same place in the tree as far as their text can tell when their components are equal, and
paths are ordered by their components.
-/

namespace PullDiagnostics

/-- A path as it was spelled. -/
structure FilePath where
  bytes : Bytes
  deriving DecidableEq, Inhabited

/-- What a piece of a path says. -/
inductive Component where
  /-- The slash at the start. -/
  | root
  /-- A single dot at the start of a relative path. -/
  | here
  /-- Two dots. -/
  | parent
  /-- Anything else. -/
  | name (bytes : Bytes)
  deriving DecidableEq, Inhabited

namespace FilePath

/-- The byte between two pieces. -/
def slash : UInt8 := 0x2F

/-- The byte that stands before an extension. -/
def dot : UInt8 := 0x2E

/-- The path that a text spells. -/
def ofString (s : String) : FilePath :=
  ⟨Utf8.encode s.toList⟩

/-- The text of a path, with replacement characters where it is not text. -/
def display (p : FilePath) : String :=
  String.ofList (Utf8.decodeLossy p.bytes)

/-- Whether a path starts at the root. -/
def isAbsolute (p : FilePath) : Bool :=
  p.bytes.head? == some slash

/-- Whether a piece means nothing. -/
def isIdle (piece : Bytes) : Bool :=
  piece.isEmpty || piece == [dot]

/-- What a piece that is not idle says. -/
def componentOf (piece : Bytes) : Component :=
  if piece = [dot, dot] then .parent else .name piece

/-- The components that follow the start of a path. -/
def namesOf (parts : List Bytes) : List Component :=
  (parts.filter (!isIdle ·)).map componentOf

/-- The components of a path. -/
def components (p : FilePath) : List Component :=
  match p.bytes.splitOn slash with
  | [] => []
  | first :: rest =>
      if first.isEmpty then
        if rest.isEmpty then [] else .root :: namesOf rest
      else if first = [dot] then .here :: namesOf rest
      else namesOf (first :: rest)

/-- The name of the file itself, unless the path ends at the root or goes up. -/
def fileName? (p : FilePath) : Option Bytes :=
  match p.components.getLast? with
  | some (.name bytes) => some bytes
  | _ => none

/-- A name cut at its last dot: what stands before the dot and what after it. A dot at the
start does not cut. -/
def cutName (name : Bytes) : Bytes × Option Bytes :=
  let after := (name.reverse.takeWhile (· != dot)).reverse
  let before := name.take (name.length - after.length - 1)
  if after.length = name.length || before.isEmpty then (name, none)
  else (before, some after)

/-- The part of the file's name after its last dot. -/
def extension? (p : FilePath) : Option Bytes :=
  p.fileName?.bind fun name => (cutName name).2

/-- The file's name without its extension. -/
def fileStem? (p : FilePath) : Option Bytes :=
  p.fileName?.map fun name => (cutName name).1

/-- Pieces without idle ones at either end. -/
def trimIdle (parts : List Bytes) : List Bytes :=
  (((parts.dropWhile isIdle).reverse.dropWhile isIdle)).reverse

/-- The pieces after the first `n` that say something. -/
def dropNames : (n : Nat) → List Bytes → List Bytes
  | 0, parts => parts
  | _, [] => []
  | n + 1, piece :: rest =>
      if isIdle piece then dropNames (n + 1) rest else dropNames n rest

/-- A path without the idle pieces at its end. -/
def trimEnd (p : FilePath) : FilePath :=
  match p.bytes.splitOn slash with
  | [] => p
  | first :: rest =>
      let kept := (rest.reverse.dropWhile isIdle).reverse
      if kept.isEmpty && first.isEmpty && !rest.isEmpty then ⟨[slash]⟩
      else ⟨List.intercalate [slash] (first :: kept)⟩

/-- What follows a base in a path that starts with the components of the base, spelled as in
the path. -/
def stripPrefix? (p base : FilePath) : Option FilePath :=
  let shared := base.components
  if shared.isPrefixOf p.components then
    match shared with
    | [] => some p.trimEnd
    | .root :: names | .here :: names =>
        some ⟨List.intercalate [slash]
          (trimIdle (dropNames names.length (p.bytes.splitOn slash).tail))⟩
    | names =>
        some ⟨List.intercalate [slash] (trimIdle (dropNames names.length (p.bytes.splitOn slash)))⟩
  else none

/-- A path below another one; an absolute path stands for itself. -/
def join (base p : FilePath) : FilePath :=
  if p.isAbsolute || base.bytes.isEmpty then p
  else if base.bytes.getLast? = some slash then ⟨base.bytes ++ p.bytes⟩
  else ⟨base.bytes ++ slash :: p.bytes⟩

end FilePath

/-! ### Order -/

/-- Which of two byte strings comes first: the one with the smaller byte where they first
differ, or the one that ends first. -/
def Bytes.before : Bytes → Bytes → Bool
  | [], [] => false
  | [], _ :: _ => true
  | _ :: _, [] => false
  | a :: as, b :: bs => if a = b then Bytes.before as bs else a < b

namespace Component

/-- The kinds of components in order. -/
def rank : Component → Nat
  | .root => 0
  | .here => 1
  | .parent => 2
  | .name _ => 3

/-- Which of two components comes first. -/
def before : Component → Component → Bool
  | .name a, .name b => Bytes.before a b
  | a, b => a.rank < b.rank

/-- Which of two lists of components comes first. -/
def listBefore : List Component → List Component → Bool
  | [], [] => false
  | [], _ :: _ => true
  | _ :: _, [] => false
  | a :: as, b :: bs => if a = b then listBefore as bs else a.before b

end Component

namespace FilePath

/-- Whether two paths have the same components. -/
def samePlace (p q : FilePath) : Bool :=
  p.components == q.components

/-- Which of two paths comes first, component by component. -/
def before (p q : FilePath) : Bool :=
  Component.listBefore p.components q.components

/-- A path put into a list in order, unless its place is taken. -/
def insertSorted (p : FilePath) : List FilePath → List FilePath
  | [] => [p]
  | q :: rest =>
      if p.before q then p :: q :: rest
      else if q.before p then q :: insertSorted p rest
      else q :: rest

/-- Paths in order, one for each place. -/
def sortedUnion (paths : List FilePath) : List FilePath :=
  paths.foldl (fun sorted p => insertSorted p sorted) []

end FilePath

end PullDiagnostics
