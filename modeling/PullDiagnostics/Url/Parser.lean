import PullDiagnostics.Url.Basic

/-!
# Reading URLs

A URL is read from the left: the scheme up to its colon, then what stands for the host, the
path up to a question mark or a number sign, the query up to a number sign, and the rest is
the fragment. Blanks and controls around the text do not count, and neither do line breaks and
tabs in it; but at the start of a file's path they end a drive letter. Under the well-known
schemes a backslash is as good as a slash and a host is always expected; local files are a case
of their own.

Dot segments of a path are resolved while it is read: a single dot says nothing, two dots
take back the segment before, unless that one has the form of a drive letter.
-/

namespace PullDiagnostics.Url

/-! ### Schemes -/

/-- How the rest of a URL is read. -/
inductive SchemeKind where
  /-- Local files. -/
  | file
  /-- The other well-known schemes, with the port that need not be written. -/
  | special (port : Nat)
  /-- All other schemes. -/
  | other
  deriving DecidableEq

/-- Whether a scheme is well known. -/
def SchemeKind.isSpecial : SchemeKind → Bool
  | .other => false
  | _ => true

/-- The port that goes without saying. -/
def SchemeKind.usualPort : SchemeKind → Option Nat
  | .special port => some port
  | _ => none

/-- The kind of a scheme in lower case. -/
def schemeKind (scheme : List Char) : SchemeKind :=
  if scheme = "file".toList then .file
  else if scheme = "http".toList || scheme = "ws".toList then .special 80
  else if scheme = "https".toList || scheme = "wss".toList then .special 443
  else if scheme = "ftp".toList then .special 21
  else .other

/-- Whether a character may stand in a scheme. -/
def isSchemeChar (c : Char) : Bool :=
  c.isAlphanum || c = '+' || c = '-' || c = '.'

/-- Tabs and the characters of line breaks, which do not count in a URL. -/
def isIgnored (c : Char) : Bool :=
  c = '\t' || c = '\n' || c = '\r'

/-- A text without what does not count. -/
def visible (text : List Char) : List Char :=
  text.filter (!isIgnored ·)

/-- The scheme of a text in lower case and what follows its colon. -/
def splitScheme (text : List Char) : Option (List Char × List Char) :=
  match Text.splitOnce ':' text with
  | none => none
  | some (before, rest) =>
      let scheme := visible before
      if (scheme.head?.map Char.isAlpha).getD false && scheme.all isSchemeChar then
        some (scheme.map Char.toLower, rest)
      else none

/-! ### Paths -/

/-- Whether a character ends a segment. -/
def isSlash (kind : SchemeKind) (c : Char) : Bool :=
  c = '/' || (kind.isSpecial && c = '\\')

/-- The stretches between characters of a kind. -/
def splitAtAny (ends : Char → Bool) : List Char → List (List Char)
  | [] => [[]]
  | c :: rest =>
      if ends c then [] :: splitAtAny ends rest
      else
        match splitAtAny ends rest with
        | [] => [[c]]
        | first :: others => (c :: first) :: others

/-- Whether a segment is a dot, perhaps encoded. -/
def isDot (segment : List Char) : Bool :=
  segment.map Char.toLower == ['.'] || segment.map Char.toLower == ['%', '2', 'e']

/-- Whether a segment is two dots, either of them perhaps encoded. -/
def isDotDot (segment : List Char) : Bool :=
  [['.', '.'], ['.', '%', '2', 'e'], ['%', '2', 'e', '.'],
    ['%', '2', 'e', '%', '2', 'e']].contains (segment.map Char.toLower)

/-- Whether a text is a drive letter: a letter and a colon or a bar. -/
def isDriveLetter : List Char → Bool
  | [letter, mark] => letter.isAlpha && (mark = ':' || mark = '|')
  | _ => false

/-- Whether a segment starts like a drive letter, so that two dots do not take it back. -/
def startsWithDrive : List Char → Bool
  | [letter, mark] => isDriveLetter [letter, mark]
  | letter :: mark :: '\\' :: _ => isDriveLetter [letter, mark]
  | _ => false

/-- A path that is being read: the segments that have ended, the last one first, and
whether the host still counts. A drive letter at the start of a file's path stands for the
host. -/
structure PathState where
  ended : List (List Char) := []
  keepsHost : Bool := true

/-- What two dots leave. -/
def takeBack : List (List Char) → List (List Char)
  | [] => []
  | last :: before => if startsWithDrive last then last :: before else before

/-- A segment of a file's path that is a drive letter and stands at the start. -/
def PathState.push (kind : SchemeKind) (s : PathState) (segment : List Char) : PathState :=
  if kind = .file && s.ended.isEmpty && isDriveLetter segment then
    ⟨[segment.take 1 ++ [':']], false⟩
  else { s with ended := segment :: s.ended }

/-- A drive letter at the start of a segment that characters which do not count divide from
what follows, and this. -/
def dividedDrive? (raw : List Char) : Option (List Char × List Char) :=
  match raw.dropWhile isIgnored with
  | letter :: rest =>
      match rest.dropWhile isIgnored with
      | ':' :: divider :: rest =>
          match rest.dropWhile isIgnored with
          | [] => none
          | after =>
              if letter.isAlpha && isIgnored divider then some ([letter, ':'], visible after)
              else none
      | _ => none
  | [] => none

/-- A segment as it is written in a path. -/
def encodeSegment (text : List Char) : List Char :=
  Percent.encodeText Percent.path text

/-- A segment that may be a dot segment; `dots` says what such a one leaves. At the start of a
file's path a drive letter that is divided from what follows is a segment of its own, and what
follows is no dot segment. -/
def PathState.read (kind : SchemeKind) (s : PathState) (raw : List Char)
    (dots : List (List Char) → List (List Char)) : PathState :=
  match if kind = .file && s.ended.isEmpty then dividedDrive? raw else none with
  | some (drive, after) => { s with ended := [encodeSegment after, drive] }
  | none =>
      let segment := encodeSegment (visible raw)
      if isDotDot segment then { s with ended := dots (takeBack s.ended) }
      else if isDot segment then { s with ended := dots s.ended }
      else s.push kind segment

/-- One segment that a slash follows. -/
def PathState.segment (kind : SchemeKind) (s : PathState) (raw : List Char) : PathState :=
  s.read kind raw id

/-- The last segment; a dot segment leaves the path with a slash at its end. -/
def PathState.last (kind : SchemeKind) (s : PathState) (raw : List Char) : PathState :=
  s.read kind raw ([] :: ·)

/-- Reads segments in order. -/
def readSegments (kind : SchemeKind) : PathState → List (List Char) → PathState
  | s, [] => s
  | s, [segment] => s.last kind segment
  | s, segment :: rest => readSegments kind (s.segment kind segment) rest

/-- The segments of a file's path without the empty ones at its start. -/
def dropEmpty (parts : List (List Char)) : List (List Char) :=
  match parts.dropWhile List.isEmpty with
  | [] => [[]]
  | kept => kept

/-- Reads a path after its first slash. -/
def readPath (kind : SchemeKind) (text : List Char) : List (List Char) × Bool :=
  let s := readSegments kind {} (splitAtAny (isSlash kind) text)
  let parts := s.ended.reverse
  (if kind = .file then dropEmpty parts else parts, s.keepsHost)

/-! ### Query and fragment -/

/-- Whether a character ends the path. -/
def endsPath (c : Char) : Bool :=
  c = '?' || c = '#'

/-- Reads what follows the path. -/
def readTail (kind : SchemeKind) (text : List Char) : Option (List Char) × Option (List Char) :=
  let querySet := if kind.isSpecial then Percent.specialQuery else Percent.query
  let fragment := Percent.encodeText Percent.fragment
  match text with
  | '?' :: rest =>
      let query := rest.takeWhile (· != '#')
      (some (Percent.encodeText querySet query),
        match rest.drop query.length with
        | [] => none
        | _ :: after => some (fragment after))
  | '#' :: rest => (none, some (fragment rest))
  | _ => (none, none)

/-- A URL of its parts, the tail still to be read. -/
def finish (kind : SchemeKind) (scheme : List Char) (authority : Option Authority)
    (path : UrlPath) (tail : List Char) : Url :=
  let (query, fragment) := readTail kind tail
  ⟨scheme, authority, path, query, fragment⟩

/-! ### Hosts -/

/-- Whether a character ends everything that belongs to the host. -/
def endsAuthority (kind : SchemeKind) (c : Char) : Bool :=
  isSlash kind c || endsPath c

/-- The texts before and after the last at sign. -/
def splitUser (text : List Char) : Option (List Char) × List Char :=
  let host := (text.reverse.takeWhile (· != '@')).reverse
  if host.length = text.length then (none, text)
  else (some (text.take (text.length - host.length - 1)), host)

/-- The text of a host up to the colon before the port; a colon between brackets belongs to
the host. -/
def takeHost (bracket : Bool) : List Char → List Char
  | [] => []
  | c :: rest =>
      if c = ':' && !bracket then []
      else c :: takeHost (if c = '[' then true else if c = ']' then false else bracket) rest

/-- Reads a port, and gives what follows it: `none` if it is not written or goes without
saying. A backslash ends it under any scheme. -/
def readPort (kind : SchemeKind) (text : List Char) :
    Except UrlError (Option Nat × List Char) :=
  let digits := text.takeWhile Text.isDigit
  let rest := text.drop digits.length
  if 65535 < Text.numeral digits || !(rest.head?.all (· == '\\')) then .error .invalidPort
  else if digits.isEmpty || some (Text.numeral digits) = kind.usualPort then .ok (none, rest)
  else .ok (some (Text.numeral digits), rest)

/-- Reads a user name and a password. -/
def readUser (text : List Char) : List Char × Option (List Char) :=
  let encode := Percent.encodeText Percent.userInfo
  match Text.splitOnce ':' text with
  | none => (encode text, none)
  | some (user, []) => (encode user, none)
  | some (user, password) => (encode user, some (encode password))

/-- Reads everything between the two slashes and the path, which may be `missing`, and gives
what is not part of it. -/
def readAuthority (kind : SchemeKind) (text : List Char) (missing : Bool) :
    Except UrlError (Authority × List Char) := do
  let (userText, hostAndPort) := splitUser text
  if userText = some [] && hostAndPort.isEmpty && !missing then throw .emptyHost
  let (user, password) := readUser (userText.getD [])
  let hostText := takeHost false hostAndPort
  let portText := hostAndPort.drop hostText.length
  if hostText.isEmpty && kind.isSpecial then throw .emptyHost
  let host ← if kind.isSpecial then Host.parseSpecial hostText else Host.parseOther hostText
  if host = .name [] && !portText.isEmpty then throw .emptyHost
  let (port, after) ← readPort kind portText.tail
  if host = .name [] && (!user.isEmpty || password.isSome) then throw .emptyHost
  pure (⟨user, password, host, port⟩, after)

/-- Reads a URL from behind the two slashes after its scheme. -/
def readAfterSlashes (kind : SchemeKind) (scheme text : List Char) : Except UrlError Url := do
  let authorityText := text.takeWhile (!endsAuthority kind ·)
  let rest := text.drop authorityText.length
  let (authority, after) ← readAuthority kind authorityText rest.isEmpty
  let pathText := rest.takeWhile (!endsPath ·)
  let tail := rest.drop pathText.length
  let path :=
    match after, pathText with
    | [], [] => if kind.isSpecial then [[]] else []
    | [], _ :: segments => (readPath kind segments).1
    | _, _ => (readPath kind (after ++ pathText)).1
  pure (finish kind scheme (some authority) (.segments path) tail)

/-! ### Files -/

/-- The host of local files: none. -/
def localHost : Authority := { host := .name [] }

/-- Reads the host of a file; the local host is none. -/
def readFileHost (text : List Char) : Except UrlError Host :=
  if text.isEmpty then .ok (.name [])
  else do
    let host ← Host.parseSpecial text
    pure (if host = .name "localhost".toList then .name [] else host)

/-- What follows a slash at the start of a text. -/
def afterSlash? (text : List Char) : Option (List Char) :=
  match text.dropWhile isIgnored with
  | [] => none
  | c :: rest => if isSlash .file c then some rest else none

/-- The host and the path of a file whose URL has two slashes after its scheme, from behind
these. A drive letter is no host. Where there is no host the slash before the path is part of
it, so that a bar in its first segment does not stand for the colon of a drive. -/
def readFileSlashes (text : List Char) : Except UrlError (Host × List Char) := do
  let raw := text.takeWhile (!isSlash .file ·)
  if isDriveLetter (visible raw) then pure (.name [], text)
  else
    let host ← readFileHost (visible raw)
    let path := text.drop raw.length
    pure (host, if host = .name [] then path else path.tail)

/-- Reads the URL of a file from behind its scheme. -/
def readFile (scheme text : List Char) : Except UrlError Url := do
  let pathText := text.takeWhile (!endsPath ·)
  let (host, path) ←
    match afterSlash? pathText with
    | none => pure (.name [], pathText)
    | some once =>
        match afterSlash? once with
        | none => pure (.name [], once)
        | some twice => readFileSlashes twice
  let (parts, keepsHost) := readPath .file path
  pure (finish .file scheme (some { host := if keepsHost then host else .name [] })
    (.segments parts) (visible (text.drop pathText.length)))

/-! ### All together -/

/-- Characters around a URL that do not count. -/
def isMargin (c : Char) : Bool :=
  c.toNat ≤ 0x20

/-- A text without what stands around a URL. -/
def trimMargin (text : List Char) : List Char :=
  ((text.dropWhile isMargin).reverse.dropWhile isMargin).reverse

/-- Reads a URL of no well-known scheme from behind its scheme. -/
def readOther (scheme text : List Char) : Except UrlError Url :=
  match text with
  | '/' :: '/' :: rest => readAfterSlashes .other scheme rest
  | '/' :: rest =>
      let pathText := rest.takeWhile (!endsPath ·)
      .ok (finish .other scheme none (.segments (readPath .other pathText).1)
        (rest.drop pathText.length))
  | _ =>
      let pathText := text.takeWhile (!endsPath ·)
      .ok (finish .other scheme none (.flat (Percent.encodeText Percent.controls pathText))
        (text.drop pathText.length))

/-- Reads a URL. -/
def parse (text : List Char) : Except UrlError Url :=
  match splitScheme (trimMargin text) with
  | none => .error .relative
  | some (scheme, rest) =>
      match schemeKind scheme with
      | .file => readFile scheme rest
      | .special port =>
          readAfterSlashes (.special port) scheme
            ((visible rest).dropWhile (isSlash (.special port)))
      | .other => readOther scheme (visible rest)

end PullDiagnostics.Url
