import PullDiagnostics.Url.Parser
import PullDiagnostics.FilePath

/-!
# URLs of files

An absolute path becomes a URL by writing each of its components behind a slash; dots are
no components, and two dots are kept. A URL without a host becomes a path by decoding its
segments.
-/

namespace PullDiagnostics.Url

/-- A component as it stands between slashes. -/
def componentText : Component → Bytes
  | .root => []
  | .here => [FilePath.dot]
  | .parent => [FilePath.dot, FilePath.dot]
  | .name bytes => bytes

/-- The URL of an absolute path. -/
def ofPath? (p : FilePath) : Option Url :=
  if p.isAbsolute then
    let parts := p.components.tail.map fun c =>
      Percent.encode Percent.pathSegment (componentText c)
    some { scheme := "file".toList, authority := some localHost,
           path := .segments (if parts.isEmpty then [[]] else parts) }
  else none

/-- The bytes of a path that ends in a drive letter get a slash at the end. -/
def closeDrive (bytes : Bytes) : Bytes :=
  match bytes.reverse with
  | mark :: letter :: _ :: _ =>
      if isDriveLetter [asciiChar letter, asciiChar mark] then bytes ++ [FilePath.slash]
      else bytes
  | _ => bytes

/-- The path of a URL that has segments and no host. -/
def toPath? (u : Url) : Option FilePath :=
  match u.path with
  | .flat _ | .segments [] => none
  | .segments parts =>
      let isLocal : Bool :=
        match u.authority with
        | none => true
        | some a => a.host = .name [] || a.host = .name "localhost".toList
      if isLocal then
        some ⟨closeDrive (parts.flatMap fun part => FilePath.slash :: Percent.decode part)⟩
      else none

end PullDiagnostics.Url
