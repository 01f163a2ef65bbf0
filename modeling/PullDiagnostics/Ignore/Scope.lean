import PullDiagnostics.Ignore.Rule

/-!
# Scopes of ignore rules

Every directory may hold rules for what lies below it, in three files of different rank: the
file of general rules, that of the repository's rules, and the repository's own list of
exclusions. The rules of a deeper directory come before those of one above it, and each rank
comes before the next. The files of the second and third rank count only inside a repository,
up to the directory where it begins.
-/

namespace PullDiagnostics.Ignore

/-- The rules that one directory holds. -/
structure Scope where
  general : List Rule := []
  repository : List Rule := []
  exclusions : List Rule := []
  /-- Whether a repository begins here. -/
  isRepository : Bool := false
  deriving Inhabited

/-- The file of general rules. -/
def generalFile : FilePath := .ofString ".ignore"

/-- The file of the repository's rules. -/
def repositoryFile : FilePath := .ofString ".gitignore"

/-- What marks the directory where a repository begins. -/
def repositoryMark : FilePath := .ofString ".git"

/-- What marks the directory where a repository of another kind begins. -/
def otherMark : FilePath := .ofString ".jj"

/-- The repository's own list of exclusions, below its data. -/
def exclusionsFile : FilePath := .ofString "info/exclude"

/-- The first line of what a path leads to; `none` in the place of an error if there is no
such line. -/
def firstLine (path : FilePath) : FileNode → Except (Option String) Bytes
  | .file content =>
      match Text.linesBy 0x0A 0x0D content with
      | [] => .error none
      | line :: _ =>
          if (Utf8.decode? line).isSome then .ok line
          else .error (some (path.display ++ ": " ++ FileError.notText.message))
  | _ => .error (some (path.display ++ ": " ++ FileError.isDirectory.message))

/-- What a file has to say before the place of the data. -/
def placeMark : Bytes := Utf8.encode "gitdir: ".toList

/-- Where the data of a repository is, or what is wrong with the files that tell, if that is
told. The mark is a directory with the data, or a file that tells of another directory, where
the place of the data is told in its turn. -/
def dataDirectory (t : FileTree) (directory : FilePath) : Except (Option String) FilePath :=
  let mark := directory.join repositoryMark
  match t.find mark with
  | .ok (.file content) => do
      let line ← firstLine mark (.file content)
      if !placeMark.isPrefixOf line then throw none
      let other : FilePath := ⟨line.drop placeMark.length⟩
      let path := other.join (.ofString "commondir")
      match t.find path with
      | .error _ => throw none
      | .ok node =>
          let place ← firstLine path node
          pure (if place.head? = some FilePath.dot then other.join ⟨place⟩ else ⟨place⟩)
  | _ => .ok mark

/-- The rules that a directory holds, and what is wrong with them. -/
def Scope.load (t : FileTree) (directory : FilePath) : Scope × List String :=
  let general := Ignore.load t (directory.join generalFile)
  let repository := Ignore.load t (directory.join repositoryFile)
  let exclusions : RuleFile :=
    match dataDirectory t directory with
    | .error problem => { problems := problem.toList }
    | .ok data => Ignore.load t (data.join exclusionsFile)
  ({ general := general.rules
     repository := repository.rules
     exclusions := exclusions.rules
     isRepository :=
       t.contains (directory.join repositoryMark) || t.contains (directory.join otherMark) },
    general.problems ++ repository.problems ++ exclusions.problems)

/-- The scopes of the innermost repository, from its deepest directory to where it begins;
none outside of repositories. -/
def insideRepository : List Scope → List Scope
  | [] => []
  | scope :: above =>
      if scope.isRepository then [scope]
      else
        match insideRepository above with
        | [] => []
        | inside => scope :: inside

/-- The verdict of the deepest scope that has one, for one rank of rules. The names of the
path are given from the last one up, so that the path below the scope at place `n` is made of
the first `n + 1` names. -/
def firstVerdict? (rank : Scope → List Rule) (scopes : List Scope) (names : List Bytes)
    (isDirectory : Bool) : Option Verdict :=
  scopes.zipIdx.findSome? fun (scope, n) =>
    let below := List.intercalate [FilePath.slash] (names.take (n + 1)).reverse
    verdict? (rank scope) below isDirectory

/-- Whether something is ignored. The scopes start with that of the directory that it lies
in. -/
def isIgnored (scopes : List Scope) (names : List Bytes) (isDirectory : Bool) : Bool :=
  let inside := insideRepository scopes
  let verdict :=
    (firstVerdict? Scope.general scopes names isDirectory).or
      ((firstVerdict? Scope.repository inside names isDirectory).or
        (firstVerdict? Scope.exclusions inside names isDirectory))
  verdict = some .ignored

end PullDiagnostics.Ignore
