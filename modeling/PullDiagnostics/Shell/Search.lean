import PullDiagnostics.FileTree.Basic
import PullDiagnostics.Shell.Regex
import PullDiagnostics.Text.Line

/-!
# Searching lines

The program that prints the lines in which expressions occur.
-/

namespace PullDiagnostics.Shell.Search

/-- Text as bytes. -/
def ascii (s : String) : Bytes := Utf8.encode s.toList

/-- What the program is asked for. -/
structure Query where
  extended : Bool := false
  fixed : Bool := false
  inverted : Bool := false
  numbered : Bool := false
  quiet : Bool := false
  silent : Bool := false
  counted : Bool := false
  ignoreCase : Bool := false
  /-- Only the names of files with lines, or without any. -/
  namesOnly : Option Bool := none
  matchesOnly : Bool := false
  wholeLine : Bool := false
  wholeWord : Bool := false
  asText : Bool := false
  named : Option Bool := none
  /-- Whether directories are searched, and whether links in them are followed. -/
  recursive : Option Bool := none
  /-- Whether the place of what is found is shown, in bytes. -/
  placed : Bool := false
  /-- Whether lines end with a zero. -/
  zeroEnds : Bool := false
  /-- Whether a zero follows the names of files. -/
  zeroNames : Bool := false
  most : Option Nat := none
  /-- How many lines to show before and after those that are found. -/
  before : Nat := 0
  after : Nat := 0
  patterns : List Bytes := []
  /-- Files with patterns in their lines. -/
  patternFiles : List Bytes := []
  files : List Bytes := []

/-- Why the program cannot do what it is asked for. -/
inductive Fault where
  | noPattern
  | unknownOption (letter : UInt8)
  | unknownLongOption (argument : Bytes)
  | missingArgument (letter : UInt8)
  | badMost
  | badContext (value : Bytes)
  | badExpression (fault : Regex.Fault)
  | unreadable (file : Bytes) (error : FileError)

/-- What is said of a fault. -/
def Fault.message (f : Fault) : Bytes :=
  let usage := ascii ("Usage: grep [OPTION]... PATTERNS [FILE]...\n" ++
    "Try 'grep --help' for more information.\n")
  match f with
  | .noPattern => usage
  | .unknownOption letter => ascii "grep: invalid option -- '" ++ [letter] ++ ascii "'\n" ++ usage
  | .unknownLongOption argument =>
      ascii "grep: unrecognized option '" ++ argument ++ ascii "'\n" ++ usage
  | .missingArgument letter =>
      ascii "grep: option requires an argument -- '" ++ [letter] ++ ascii "'\n" ++ usage
  | .badMost => ascii "grep: invalid max count\n"
  | .badContext value => ascii "grep: " ++ value ++ ascii ": invalid context length argument\n"
  | .badExpression fault => ascii ("grep: " ++ fault.message ++ "\n")
  | .unreadable file e => ascii "grep: " ++ file ++ ascii (": " ++ e.reason ++ "\n")

/-- The number that an argument spells, if it consists of digits. -/
def digits? (value : Bytes) : Option Nat :=
  if value.isEmpty || !value.all Numeral.isDigit then none else some (Numeral.decimal value)

/-- A query with an option that takes no argument. -/
def Query.withFlag? (q : Query) (letter : UInt8) : Option Query :=
  match Char.ofNat letter.toNat with
  | 'E' | 'P' => some { q with extended := true, fixed := false }
  | 'F' => some { q with fixed := true }
  | 'G' => some { q with extended := false, fixed := false }
  | 'v' => some { q with inverted := true }
  | 'n' => some { q with numbered := true }
  | 'q' => some { q with quiet := true }
  | 's' => some { q with silent := true }
  | 'c' => some { q with counted := true }
  | 'i' | 'y' => some { q with ignoreCase := true }
  | 'l' => some { q with namesOnly := some true }
  | 'L' => some { q with namesOnly := some false }
  | 'o' => some { q with matchesOnly := true }
  | 'x' => some { q with wholeLine := true }
  | 'w' => some { q with wholeWord := true }
  | 'h' => some { q with named := some false }
  | 'H' => some { q with named := some true }
  | 'a' => some { q with asText := true }
  | 'b' => some { q with placed := true }
  | 'r' => some { q with recursive := some false }
  | 'R' => some { q with recursive := some true }
  | 'z' => some { q with zeroEnds := true }
  | 'Z' => some { q with zeroNames := true }
  | 'U' => some q
  | _ => none

/-- A query with an option that takes an argument. -/
def Query.withValue (q : Query) (letter : UInt8) (value : Bytes) : Except Fault Query :=
  let context : Except Fault Nat :=
    match digits? value with
    | some n => .ok n
    | none => .error (.badContext value)
  match Char.ofNat letter.toNat with
  | 'e' => .ok { q with patterns := q.patterns ++ value.splitOn 0x0A }
  | 'f' => .ok { q with patternFiles := q.patternFiles ++ [value] }
  | 'm' =>
      match digits? value with
      | some n => .ok { q with most := some n }
      | none => .error .badMost
  | 'A' => context.map fun n => { q with after := n }
  | 'B' => context.map fun n => { q with before := n }
  | _ => context.map fun n => { q with before := n, after := n }

/-- Whether an option takes an argument. -/
def takesValue (letter : UInt8) : Bool :=
  ("efmABC".toList.map Shell.ascii).contains letter

/-- The letters of options with long names. -/
def longOptions : List (String × Char) :=
  [("extended-regexp", 'E'), ("fixed-strings", 'F'), ("basic-regexp", 'G'), ("perl-regexp", 'P'),
    ("invert-match", 'v'), ("line-number", 'n'), ("quiet", 'q'), ("silent", 'q'),
    ("no-messages", 's'), ("count", 'c'), ("ignore-case", 'i'), ("files-with-matches", 'l'),
    ("files-without-match", 'L'), ("only-matching", 'o'), ("line-regexp", 'x'),
    ("word-regexp", 'w'), ("no-filename", 'h'), ("with-filename", 'H'), ("text", 'a'),
    ("binary", 'U'), ("regexp", 'e'), ("max-count", 'm'), ("after-context", 'A'),
    ("before-context", 'B'), ("context", 'C'), ("byte-offset", 'b'), ("file", 'f'),
    ("recursive", 'r'), ("dereference-recursive", 'R'), ("null-data", 'z'), ("null", 'Z')]

/-- A query with the options of some letters, and the arguments that are left; the last
letter may take the next argument. -/
def Query.withLetters (q : Query) (rest : List Bytes) :
    Bytes → Except Fault (Query × List Bytes)
  | [] => .ok (q, rest)
  | b :: letters =>
      if takesValue b then
        match letters, rest with
        | [], [] => .error (.missingArgument b)
        | [], value :: rest => (q.withValue b value).map fun q => (q, rest)
        | value, _ => (q.withValue b value).map fun q => (q, rest)
      else
        match q.withFlag? b with
        | some q => q.withLetters rest letters
        | none =>
            if Numeral.isDigit b then
              let number := b :: letters.takeWhile Numeral.isDigit
              let n := Numeral.decimal number
              if number.length = letters.length + 1 then
                .ok ({ q with before := n, after := n }, rest)
              else .error (.unknownOption b)
            else .error (.unknownOption b)

/-- A query with an option by its long name. -/
def Query.withLong (q : Query) (rest : List Bytes) (argument : Bytes) :
    Except Fault (Query × List Bytes) :=
  let text := argument.drop 2
  let name := text.takeWhile (· ≠ 0x3D)
  let value := if name.length < text.length then some (text.drop (name.length + 1)) else none
  if name = ascii "color" || name = ascii "colour" then .ok (q, rest)
  else
    match longOptions.find? fun (n, _) => ascii n = name with
    | none => .error (.unknownLongOption argument)
    | some (_, letter) =>
        let letter := Shell.ascii letter
        if takesValue letter then
          match value, rest with
          | some value, _ => (q.withValue letter value).map fun q => (q, rest)
          | none, value :: rest => (q.withValue letter value).map fun q => (q, rest)
          | none, [] => .error (.missingArgument letter)
        else
          match q.withFlag? letter with
          | some q => .ok (q, rest)
          | none => .error (.unknownLongOption argument)

/-- Reads the arguments. Options may stand anywhere before two dashes; what is no option is a
file. -/
def Query.read : (fuel : Nat) → Query → List Bytes → Except Fault Query
  | 0, q, _ => .ok q
  | _, q, [] => .ok q
  | fuel + 1, q, argument :: rest =>
      match argument with
      | [0x2D, 0x2D] => .ok { q with files := q.files ++ rest }
      | 0x2D :: 0x2D :: _ => do
          let (q, rest) ← q.withLong rest argument
          read fuel q rest
      | 0x2D :: b :: letters => do
          let (q, rest) ← q.withLetters rest (b :: letters)
          read fuel q rest
      | _ => read fuel { q with files := q.files ++ [argument] } rest

/-- The query that arguments make. Without a pattern among the options the first file is
one. -/
def Query.ofArguments (arguments : List Bytes) : Except Fault Query := do
  let q ← Query.read (arguments.length + 1) {} arguments
  if q.patterns.isEmpty && q.patternFiles.isEmpty then
    match q.files with
    | pattern :: files => pure { q with patterns := pattern.splitOn 0x0A, files }
    | [] => .error .noPattern
  else pure q

/-- The lines of a file. -/
def Query.linesOf (q : Query) (content : Bytes) : List Bytes :=
  if q.zeroEnds then Text.linesBy 0 0 content else Text.linesBy 0x0A 0x0A content

/-- The byte at the end of a line. -/
def Query.lineEnd (q : Query) : UInt8 :=
  if q.zeroEnds then 0 else 0x0A

/-- A query with the patterns of its files among its patterns. -/
def Query.withPatterns (q : Query) (read : Bytes → Except FileError Bytes) :
    Except Fault Query := do
  let more ← q.patternFiles.mapM fun file =>
    ((read file).mapError (Fault.unreadable file)).map (Text.linesBy 0x0A 0x0A)
  pure { q with patterns := q.patterns ++ more.flatten }

/-- The expressions of a query. -/
def Query.expressions (q : Query) : Except Fault (List Regex) :=
  q.patterns.mapM fun p => do
    let e ← if q.fixed then pure (Regex.literal p)
      else (Regex.read q.extended p).mapError .badExpression
    pure (if q.ignoreCase then e.foldCase else e)

/-- How many bytes expressions can match from a place, the most of them. -/
def Query.longest? (q : Query) (expressions : List Regex) (s : Regex.Spot) : Option Nat :=
  let ends := (expressions.flatMap fun e => e.advance [s]).filter fun last =>
    (!q.wholeWord || (!s.isAfterWord && !last.isBeforeWord)) &&
      (!q.wholeLine || (s.before.isNone && last.left.isEmpty))
  ends.foldl (fun best last =>
    some (max (s.left.length - last.left.length) (best.getD 0))) none

/-- Whether expressions occur in a line. -/
def Query.occurs (q : Query) (expressions : List Regex) (line : Bytes) : Bool :=
  if q.wholeWord || q.wholeLine then
    (Regex.Spot.all none line).any fun s => (q.longest? expressions s).isSome
  else expressions.any fun e => !(e.advance (Regex.Spot.all none line)).isEmpty

/-- The stretches of a line that expressions match, from left to right, and how much of the
line is left where each of them begins. -/
def Query.stretches (q : Query) (expressions : List Regex) :
    (fuel : Nat) → Regex.Spot → List (Nat × Bytes)
  | 0, _ => []
  | fuel + 1, s =>
      let after (n : Nat) : Regex.Spot :=
        ⟨if n = 0 then s.before else s.left[n - 1]?, s.left.drop n⟩
      match q.longest? expressions s with
      | some (n + 1) =>
          (s.left.length, s.left.take (n + 1)) :: q.stretches expressions fuel (after (n + 1))
      | _ => if s.left.isEmpty then [] else q.stretches expressions fuel (after 1)

/-- The numbers of the lines that a query selects, counted from zero. -/
def Query.selected (q : Query) (expressions : List Regex) (lines : List Bytes) : List Nat :=
  let all := lines.zipIdx.filterMap fun (line, n) =>
    if q.occurs expressions line != q.inverted then some n else none
  match q.most with
  | some most => all.take most
  | none => all

/-- Whether lines around those that are found are asked for. -/
def Query.hasContext (q : Query) : Bool :=
  0 < q.before || 0 < q.after

/-- The mark between groups of lines. -/
def groupMark : Bytes := ascii "--\n"

/-- A name before a mark, or before a zero. -/
def Query.nameBefore (q : Query) (name : Bytes) (mark : UInt8) : Bytes :=
  name ++ [if q.zeroNames then 0 else mark]

/-- Lines with their numbers, counted from zero, and the places where they start. -/
def placedLines (start number : Nat) : List Bytes → List (Nat × Nat × Bytes)
  | [] => []
  | line :: rest =>
      (number, start, line) :: placedLines (start + line.length + 1) (number + 1) rest

/-- The lines that are shown for those that are selected: a group of neighbours after the
other, with a mark between them if neighbours were asked for. -/
def Query.shown (q : Query) (expressions : List Regex) (label : Option Bytes)
    (lines : List Bytes) (selected : List Nat) : Bytes :=
  let isShown (n : Nat) : Bool := selected.any fun m => m ≤ n + q.before && n ≤ m + q.after
  let start (mark : UInt8) (n place : Nat) : Bytes :=
    let number (n : Nat) : Bytes := Utf8.encode (Nat.toDigits 10 n) ++ [mark]
    (match label with | some name => q.nameBefore name mark | none => []) ++
      (if q.numbered then number (n + 1) else []) ++ (if q.placed then number place else [])
  let one (line : Bytes) (n place : Nat) : Bytes :=
    if selected.contains n then
      if q.matchesOnly then
        if q.inverted then []
        else (q.stretches expressions (line.length + 1) ⟨none, line⟩).flatMap fun (left, s) =>
          start 0x3A n (place + line.length - left) ++ s ++ [q.lineEnd]
      else start 0x3A n place ++ line ++ [q.lineEnd]
    else if q.matchesOnly then []
    else start 0x2D n place ++ line ++ [q.lineEnd]
  let kept := (placedLines 0 0 lines).filter fun (n, _) => isShown n
  (kept.foldl (fun (last, out) (n, place, line) =>
    let gap := match last with
      | some m => if q.hasContext && m + 1 < n then groupMark else []
      | none => []
    (some n, out ++ gap ++ one line n place)) (none, [])).2

/-- What is written for one file, what is said of it, and whether a line was found. -/
def Query.searchFile (q : Query) (expressions : List Regex) (withName : Bool) (name : Bytes)
    (content : Bytes) : Bytes × Bytes × Bool :=
  let lines := q.linesOf content
  let selected := q.selected expressions lines
  let found := !selected.isEmpty
  let label := if withName then some name else none
  if q.quiet then ([], [], found)
  else
    match q.namesOnly with
    | some wanted => (if found = wanted then q.nameBefore name 0x0A else [], [], found)
    | none =>
        if q.counted then
          let start := match label with | some name => q.nameBefore name 0x3A | none => []
          (start ++ Utf8.encode (Nat.toDigits 10 selected.length) ++ [0x0A], [], found)
        else if !q.asText && !q.zeroEnds && content.contains 0 then
          ([], if found then ascii "grep: " ++ name ++ ascii ": binary file matches\n" else [],
            found)
        else (q.shown expressions label lines selected, [], found)

/-- What the program writes, and the number that it ends with. -/
structure Answer where
  output : Bytes := []
  errors : Bytes := []
  status : Nat
  deriving Inhabited

/-- The answer of a query that looks into files one after the other. A quiet one ends with
the first line that it finds. -/
def Query.searchAll (q : Query) (expressions : List Regex)
    (read : Bytes → Except FileError Bytes) (found failed : Bool) : List (Bytes × Bool) → Answer
  | [] => { status := if found && !failed then 0 else if failed then 2 else 1 }
  | (file, withName) :: rest =>
      match read file with
      | .ok content =>
          let name := if file = [0x2D] then ascii "(standard input)" else file
          let (output, errors, here) := q.searchFile expressions withName name content
          if q.quiet && here then { status := 0 }
          else
            let more := q.searchAll expressions read (found || here) failed rest
            let mark := if q.hasContext && !output.isEmpty && !more.output.isEmpty then groupMark
              else []
            { more with
              output := output ++ mark ++ more.output, errors := errors ++ more.errors }
      | .error e =>
          let text :=
            if q.silent then [] else ascii "grep: " ++ file ++ ascii (": " ++ e.reason ++ "\n")
          let more := q.searchAll expressions read found true rest
          { more with errors := text ++ more.errors }

/-- What the program can look into. -/
structure Surroundings where
  /-- What can be read under a name. -/
  read : Bytes → Except FileError Bytes
  /-- The files in the directory of a name, at any depth; or none if it is no directory. Links
  are followed there if that is asked for. -/
  filesBelow? : (followsLinks : Bool) → Bytes → Option (List Bytes)

/-- The files that a query looks into, each with whether its name is shown. Without any it is
the input, or the directory the program is in. -/
def Query.sources (q : Query) (around : Surroundings) : List (Bytes × Bool) :=
  match q.recursive with
  | none =>
      let files : List Bytes := if q.files.isEmpty then [[0x2D]] else q.files
      files.map fun file => (file, q.named.getD (1 < files.length))
  | some followsLinks =>
      let files : List Bytes := if q.files.isEmpty then [[FilePath.dot]] else q.files
      files.flatMap fun file =>
        match around.filesBelow? followsLinks file with
        | some below =>
            let shown := if q.files.isEmpty then below.map (·.drop 2) else below
            shown.map fun name => (name, q.named.getD true)
        | none => [(file, q.named.getD (1 < files.length))]

/-- The program on arguments, where a dash stands for what can be read from its input. -/
def run (around : Surroundings) (arguments : List Bytes) : Answer :=
  let answer : Except Fault Answer := do
    let q ← Query.ofArguments arguments
    let q ← q.withPatterns around.read
    let expressions ← q.expressions
    pure (q.searchAll expressions around.read false false (q.sources around))
  match answer with
  | .ok answer => answer
  | .error fault => { errors := fault.message, status := 2 }

end PullDiagnostics.Shell.Search
