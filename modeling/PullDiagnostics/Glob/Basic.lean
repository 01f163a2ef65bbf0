import PullDiagnostics.Text.Utf8

/-!
# Path patterns

A pattern is a list of tokens, each of which matches some stretch of a path. Stars stand for
any stretch, double stars between slashes for any number of directories, brackets for one of
some bytes, braces for one of some patterns. Paths are byte strings, so a question mark or a
bracket takes one byte, and a character outside ASCII in brackets is there with each of its
bytes.

What a pattern matches is told by remainders: from each place in the path that the tokens
before lead to, a token leads to some places further on.
-/

namespace PullDiagnostics

namespace Glob

/-- One part of a pattern. -/
inductive Token where
  /-- A character that stands for itself. -/
  | literal (c : Char)
  /-- A question mark: one byte. -/
  | anyByte
  /-- A star: any stretch. -/
  | anyRun
  /-- Double stars at the start: nothing, or any directories. -/
  | leading
  /-- Double stars at the end: anything below. -/
  | trailing
  /-- Double stars between two slashes: a slash, or any directories. -/
  | between
  /-- Brackets: one byte that is among some, or is not. -/
  | oneOf (negated : Bool) (ranges : List (Char × Char))
  /-- Braces: one of some patterns. -/
  | either (branches : List (List Token))
  deriving Inhabited

/-- The byte between the names of a path. -/
def slash : UInt8 := 0x2F

/-- A path without the bytes it starts with. -/
def stripStart : Bytes → Bytes → Option Bytes
  | [], rest => some rest
  | _, [] => none
  | a :: as, b :: bs => if a = b then stripStart as bs else none

/-- All ends of a byte string, itself and the empty one included. -/
def ends : Bytes → List Bytes
  | [] => [[]]
  | b :: rest => (b :: rest) :: ends rest

/-- The ends of a byte string up to its first slash. -/
def endsInName : Bytes → List Bytes
  | [] => [[]]
  | b :: rest => if b = slash then [b :: rest] else (b :: rest) :: endsInName rest

/-- The ends of a byte string that stand after a slash. -/
def endsAfterSlash : Bytes → List Bytes
  | [] => []
  | b :: rest => if b = slash then rest :: endsAfterSlash rest else endsAfterSlash rest

/-- The bytes that a range of characters stands for, as ranges of bytes. -/
def byteRanges (low high : Char) : List (UInt8 × UInt8) :=
  let single (b : UInt8) := (b, b)
  let lowBytes := String.utf8EncodeChar low
  if low = high then lowBytes.map single
  else
    match lowBytes.getLast?, String.utf8EncodeChar high with
    | some last, first :: rest =>
        lowBytes.dropLast.map single ++ (last, first) :: rest.map single
    | _, _ => []

/-- Whether a byte is among those that ranges stand for. -/
def inRanges (ranges : List (Char × Char)) (b : UInt8) : Bool :=
  ranges.any fun (low, high) => (byteRanges low high).any fun (l, h) => l ≤ b && b ≤ h

/-- Ends of one byte string, each once. -/
def distinct (places : List Bytes) : List Bytes :=
  places.foldr (fun p kept => if kept.any (·.length == p.length) then kept else p :: kept) []

mutual

/-- Whether a token is more than braces around nothing. -/
def Token.isSolid : Token → Bool
  | .either branches => anySolid branches
  | _ => true

/-- Whether one of some tokens is solid. -/
def hasSolid : List Token → Bool
  | [] => false
  | t :: rest => t.isSolid || hasSolid rest

/-- Whether one of some patterns has a solid token. -/
def anySolid : List (List Token) → Bool
  | [] => false
  | branch :: rest => hasSolid branch || anySolid rest

end

mutual

/-- The places that a token leads to from some places. If names are closed, a question mark
or a star does not take a slash. A branch of braces that has nothing in it does not count,
unless all are such. -/
def Token.advance (closed : Bool) : Token → List Bytes → List Bytes
  | .literal c, places => places.filterMap (stripStart (String.utf8EncodeChar c))
  | .anyByte, places =>
      places.filterMap fun place =>
        match place with
        | [] => none
        | b :: rest => if closed && b = slash then none else some rest
  | .anyRun, places => distinct (places.flatMap (if closed then endsInName else ends))
  | .leading, places => distinct (places.flatMap fun place => place :: endsAfterSlash place)
  | .trailing, places =>
      distinct (places.flatMap fun place =>
        match stripStart [slash] place with
        | none => []
        | some rest => ends rest)
  | .between, places =>
      distinct (places.flatMap fun place =>
        match stripStart [slash] place with
        | none => []
        | some rest => rest :: endsAfterSlash rest)
  | .oneOf negated ranges, places =>
      places.filterMap fun place =>
        match place with
        | [] => none
        | b :: rest => if inRanges ranges b != negated then some rest else none
  | .either branches, places =>
      if anySolid branches then distinct (advanceAny closed branches places) else places

/-- The places that a list of tokens leads to. -/
def advanceAll (closed : Bool) : List Token → List Bytes → List Bytes
  | [], places => places
  | t :: rest, places => advanceAll closed rest (t.advance closed places)

/-- The places that one of some patterns leads to. -/
def advanceAny (closed : Bool) : List (List Token) → List Bytes → List Bytes
  | [], _ => []
  | branch :: rest, places =>
      (if hasSolid branch then advanceAll closed branch places else []) ++
        advanceAny closed rest places

end

end Glob

/-- A pattern for paths. -/
structure Glob where
  tokens : List Glob.Token
  deriving Inhabited

/-- Whether a pattern matches a path. Double stars alone match everything. -/
def Glob.accepts (g : Glob) (closed : Bool) (path : Bytes) : Bool :=
  match g.tokens with
  | [.leading] => true
  | tokens => (Glob.advanceAll closed tokens [path]).any List.isEmpty

end PullDiagnostics
