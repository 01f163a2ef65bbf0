import PullDiagnostics.Url.Host

/-!
# URLs

A URL has a scheme, perhaps a host with what belongs to it, a path, and perhaps a query and
a fragment. All of it is kept as it is written, so two URLs are equal exactly if their texts
are. The path is a list of segments, each after a slash, unless the scheme is followed by
something else than a slash; then the path is one piece of text.
-/

namespace PullDiagnostics

/-- The host of a URL and what stands around it. -/
structure Authority where
  user : List Char := []
  password : Option (List Char) := none
  host : Host
  port : Option Nat := none
  deriving DecidableEq, Inhabited

/-- The path of a URL. -/
inductive UrlPath where
  /-- Text that does not start with a slash. -/
  | flat (text : List Char)
  /-- Segments, with a slash before each. -/
  | segments (parts : List (List Char))
  deriving DecidableEq, Inhabited

/-- A URL. -/
structure Url where
  scheme : List Char
  authority : Option Authority
  path : UrlPath
  query : Option (List Char) := none
  fragment : Option (List Char) := none
  deriving DecidableEq, Inhabited

/-- The text of a host with what belongs to it. -/
def Authority.write (a : Authority) : List Char :=
  let user := a.user ++ (match a.password with | none => [] | some p => ':' :: p)
  (if user.isEmpty then [] else user ++ ['@']) ++ a.host.write ++
    (match a.port with | none => [] | some n => ':' :: Nat.toDigits 10 n)

/-- The text of a path. -/
def UrlPath.write : UrlPath → List Char
  | .flat text => text
  | .segments parts => parts.flatMap ('/' :: ·)

namespace Url

/-- What stands between the scheme and the path. Without a host, a path that starts with two
slashes would be taken for one, so a segment of one dot is put in front. -/
def writeAuthority (u : Url) : List Char :=
  match u.authority with
  | some a => '/' :: '/' :: a.write
  | none =>
      match u.path with
      | .segments ([] :: _ :: _) => ['/', '.']
      | _ => []

/-- The text of a URL. -/
def write (u : Url) : List Char :=
  u.scheme ++ ':' :: (u.writeAuthority ++ u.path.write ++
    (match u.query with | none => [] | some q => '?' :: q) ++
    (match u.fragment with | none => [] | some f => '#' :: f))

/-- The text of a URL as a string. -/
def render (u : Url) : String :=
  String.ofList u.write

end Url

end PullDiagnostics
