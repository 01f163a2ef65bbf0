import PullDiagnostics.Glob.Basic

/-!
# Reading patterns

A pattern is read from the left. A backslash makes the next character stand for itself. Two
stars mean directories only where they stand between slashes or at an end of the pattern or
of a branch; elsewhere they are two single stars. Inside braces a comma starts a new branch.
-/

namespace PullDiagnostics.Glob

/-- Why a text is no pattern. -/
inductive Error where
  /-- A bracket is not closed. -/
  | unclosedBracket
  /-- A range whose first character comes after its last. -/
  | invalidRange (low high : Char)
  /-- A brace is closed that was not opened. -/
  | unopenedBrace
  /-- A brace is not closed. -/
  | unclosedBrace
  /-- Nothing follows a backslash. -/
  | danglingEscape
  deriving DecidableEq, Inhabited

/-- What is said of a pattern that cannot be read. -/
def Error.reason : Error → String
  | .unclosedBracket => "unclosed character class; missing ']'"
  | .invalidRange low high =>
      "invalid range; '" ++ String.singleton low ++ "' > '" ++ String.singleton high ++ "'"
  | .unopenedBrace =>
      "unopened alternate group; missing '\x7b' (maybe escape '\x7d' with '[\x7d]'?)"
  | .unclosedBrace =>
      "unclosed alternate group; missing '\x7d' (maybe escape '\x7b' with '[\x7b]'?)"
  | .danglingEscape => "dangling '\\'"

/-- What is said of a pattern that cannot be read, with the pattern. -/
def Error.message (e : Error) (pattern : String) : String :=
  "error parsing glob '" ++ pattern ++ "': " ++ e.reason

/-! ### Brackets -/

/-- Brackets that are being read: the ranges so far, the last one first, and whether a dash
after the last one waits for its end. -/
structure Bracket where
  ranges : List (Char × Char) := []
  dash : Bool := false

/-- The last range gets its end. -/
def Bracket.extend (b : Bracket) (high : Char) : Except Error Bracket :=
  match b.ranges with
  | [] => .ok { b with dash := false }
  | (low, _) :: rest =>
      if high < low then .error (.invalidRange low high)
      else .ok ⟨(low, high) :: rest, false⟩

/-- One character inside brackets. A closing bracket that comes first stands for itself, and
so does a dash that comes first or last. -/
def Bracket.take (b : Bracket) (isFirst : Bool) (c : Char) : Except Error Bracket :=
  if c = '-' && !isFirst && !b.dash then .ok { b with dash := true }
  else if b.dash then b.extend c
  else .ok { b with ranges := (c, c) :: b.ranges }

/-- Reads brackets up to the closing one: the ranges and what follows. -/
def readBracket (b : Bracket) (isFirst : Bool) :
    List Char → Except Error (List (Char × Char) × List Char)
  | [] => .error .unclosedBracket
  | c :: rest =>
      if c = ']' && !isFirst then
        .ok ((if b.dash then ('-', '-') :: b.ranges else b.ranges).reverse, rest)
      else
        match b.take isFirst c with
        | .error e => .error e
        | .ok more => readBracket more false rest

/-! ### Patterns -/

/-- A level of braces: the branches that have ended and the open one, both with the last
first. -/
structure Level where
  ended : List (List Token) := []
  current : List Token := []

/-- A pattern that is being read: the innermost level, the levels around it, and the last
character that was read. -/
structure Reader where
  level : Level := {}
  outer : List Level := []
  last : Option Char := none
  /-- Whether a bracket that is not closed stands for itself. One that does makes all
  brackets after it plain too. -/
  lenient : Bool := false
  plainBrackets : Bool := false

/-- A token at the end of the open branch. -/
def Reader.push (r : Reader) (t : Token) : Reader :=
  { r with level := { r.level with current := t :: r.level.current } }

/-- The last token of the open branch replaced. Double stars take the place of the slash
before them. -/
def Reader.replaceLast (r : Reader) (t : Token) : Reader :=
  match r.level.current with
  | [] => r
  | .leading :: _ | .trailing :: _ => r
  | _ :: rest => { r with level := { r.level with current := t :: rest } }

/-- A closing brace. -/
def Reader.close (r : Reader) : Except Error Reader :=
  match r.outer with
  | [] => .error .unopenedBrace
  | level :: outer =>
      let branches := (r.level.current.reverse :: r.level.ended).reverse
      .ok { r with level := { level with current := .either branches :: level.current }, outer }

/-- Double stars that are followed by some text: the state after them and the text that is
left. -/
def Reader.doubleStar (r : Reader) (rest : List Char) : Reader × List Char :=
  let stars := ((r.push .anyRun).push .anyRun, rest)
  let inBraces := !r.outer.isEmpty
  if r.level.current.isEmpty then
    match rest with
    | [] => (r.push .leading, [])
    | '/' :: more => (r.push .leading, more)
    | _ => stars
  else if r.last = some '/' || (inBraces && (r.last = some ',' || r.last = some '\x7b')) then
    match rest with
    | [] => (r.replaceLast .trailing, [])
    | '/' :: more => (r.replaceLast .between, more)
    | c :: _ =>
        if inBraces && (c = ',' || c = '\x7d') then (r.replaceLast .trailing, rest) else stars
  else stars

/-- Reads a pattern; every character takes one unit of fuel. -/
def read : (fuel : Nat) → Reader → List Char → Except Error Reader
  | 0, r, _ => .ok r
  | _, r, [] => .ok r
  | fuel + 1, r, c :: rest =>
      let on (next : Reader) (last : Char) (rest : List Char) :=
        read fuel { next with last := some last } rest
      if c = '?' then on (r.push .anyByte) c rest
      else if c = '*' then
        match rest with
        | '*' :: more =>
            let (next, left) := r.doubleStar more
            on next (if left.length < more.length then '/' else '*') left
        | _ => on (r.push .anyRun) c rest
      else if c = '[' && !r.plainBrackets then
        let (negated, inner) :=
          match rest with
          | '!' :: inner | '^' :: inner => (true, inner)
          | _ => (false, rest)
        match readBracket {} true inner with
        | .ok (ranges, left) => on (r.push (.oneOf negated ranges)) ']' left
        | .error e =>
            if r.lenient && e = .unclosedBracket then
              on { r.push (.literal c) with plainBrackets := true } c rest
            else .error e
      else if c = '\x7b' then on { r with level := {}, outer := r.level :: r.outer } c rest
      else if c = '\x7d' then
        match r.close with
        | .error e => .error e
        | .ok next => on next c rest
      else if c = ',' && !r.outer.isEmpty then
        on { r with level := ⟨r.level.current.reverse :: r.level.ended, []⟩ } c rest
      else if c = '\\' then
        match rest with
        | [] => .error .danglingEscape
        | escaped :: left => on (r.push (.literal escaped)) escaped left
      else on (r.push (.literal c)) c rest

/-- Reads a pattern, where a bracket that is not closed is a fault, or stands for itself. -/
def parse (lenient : Bool) (pattern : List Char) : Except Error Glob :=
  match read pattern.length { lenient } pattern with
  | .error e => .error e
  | .ok r => if r.outer.isEmpty then .ok ⟨r.level.current.reverse⟩ else .error .unclosedBrace

end PullDiagnostics.Glob
