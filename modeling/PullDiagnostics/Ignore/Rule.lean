import PullDiagnostics.FileTree.Basic
import PullDiagnostics.Glob.Expression
import PullDiagnostics.Text.Line

/-!
# Ignore rules

A file of ignore rules has one rule on a line. A rule is a pattern that is held against the
path below the directory of the file; it ignores what it matches, or, after an exclamation
mark, keeps it. A slash at its end makes it hold for directories only; without any other
slash it holds at every depth. Of the rules that match a path the last one decides.

Lines that cannot be read are left out, and what is wrong with them is told; a file that
cannot be read further is told of only if there is something else to tell. If the patterns of
a file make no set, none of its rules counts.
-/

namespace PullDiagnostics.Ignore

/-- One rule. -/
structure Rule where
  glob : Glob
  /-- Whether the rule keeps what it matches. -/
  keeps : Bool := false
  directoriesOnly : Bool := false
  deriving Inhabited

/-- What rules say of a path. -/
inductive Verdict where
  | ignored
  | kept
  deriving DecidableEq, Inhabited

/-- What one rule says of a path. -/
def Rule.verdict? (r : Rule) (path : Bytes) (isDirectory : Bool) : Option Verdict :=
  if (!r.directoriesOnly || isDirectory) && r.glob.accepts true path then
    some (if r.keeps then .kept else .ignored)
  else none

/-- What a list of rules says of a path: the last one that matches decides. -/
def verdict? (rules : List Rule) (path : Bytes) (isDirectory : Bool) : Option Verdict :=
  rules.reverse.findSome? fun r => r.verdict? path isDirectory

/-! ### Reading -/

/-- A line without the blanks at its end, unless the last of them is escaped. -/
def trimLine (line : List Char) : List Char :=
  if [' ', '\\'].isPrefixOf line.reverse then line else Text.trimEnd line

/-- The marks before a pattern: whether the rule keeps, whether the pattern is bound to the
directory of the file, and the pattern. A backslash takes the meaning from the mark after
it. -/
def readMarks : List Char → Bool × Bool × List Char
  | '\\' :: '!' :: rest => (false, false, '!' :: rest)
  | '\\' :: '#' :: rest => (false, false, '#' :: rest)
  | '!' :: '/' :: rest => (true, true, rest)
  | '!' :: rest => (true, false, rest)
  | '/' :: rest => (false, true, rest)
  | line => (false, false, line)

/-- The slash that a pattern for directories ends with, taken off together with a backslash
before it. -/
def readDirectoryMark (pattern : List Char) : Bool × List Char :=
  match pattern.reverse with
  | '/' :: '\\' :: rest => (true, rest.reverse)
  | '/' :: rest => (true, rest.reverse)
  | _ => (false, pattern)

/-- Double stars before a pattern that holds at every depth. -/
def widen (bound : Bool) (pattern : List Char) : List Char :=
  let doubleStar := "**".toList
  if bound || pattern.contains '/' || pattern = doubleStar then pattern
  else doubleStar ++ '/' :: pattern

/-- Double stars at the end of a pattern mean what is below a directory and not the directory
itself. -/
def sharpen (pattern : List Char) : List Char :=
  if "**/".toList.isPrefixOf pattern.reverse then pattern ++ "/*".toList else pattern

/-- Reads a line. There is no rule on an empty line and on a comment. A bracket that is not
closed stands for itself. -/
def readLine (line : List Char) : Except String (Option Rule) :=
  if line.head? = some '#' then .ok none
  else
    let shown := trimLine line
    if shown.isEmpty then .ok none
    else
      let (keeps, bound, marked) := readMarks shown
      let (directoriesOnly, pattern) := readDirectoryMark marked
      match Glob.parse true (sharpen (widen bound pattern)) with
      | .ok glob => .ok (some { glob, keeps, directoriesOnly })
      | .error e => .error (e.message (String.ofList shown))

/-! ### Files of rules -/

/-- Rules, and what is wrong with their file. -/
structure RuleFile where
  rules : List Rule := []
  problems : List String := []
  deriving Inhabited

/-- Something that is wrong with a line. -/
structure Problem where
  text : String
  /-- Whether the line could not be read from the file. -/
  isUnreadable : Bool := false

/-- A first line without byte order marks. -/
def dropMarks (line : List Char) : List Char :=
  line.dropWhile (· = '\uFEFF')

/-- What is told of a line of a file. -/
def lineProblem (path : FilePath) (number : Nat) (text : String) : String :=
  path.display ++ ": line " ++ toString number ++ ": " ++ text

/-- What is told of a line that cannot be read from its file. -/
def unreadableLine (path : FilePath) (number : Nat) (e : FileError) : Problem where
  text := lineProblem path number e.message
  isUnreadable := true

/-- Reads lines; the first one that is not text ends the file. -/
def readLines (path : FilePath) (number : Nat) : List Bytes → List Rule × List Problem
  | [] => ([], [])
  | bytes :: rest =>
      match Utf8.decode? bytes with
      | none => ([], [unreadableLine path number .notText])
      | some line =>
          let (rules, problems) := readLines path (number + 1) rest
          match readLine (if number = 1 then dropMarks line else line) with
          | .ok none => (rules, problems)
          | .ok (some rule) => (rule :: rules, problems)
          | .error e => (rules, { text := lineProblem path number e } :: problems)

/-- The problems of a file that are told: all of them, unless the only one is that it cannot be
read. -/
def toldProblems : List Problem → List String
  | [p] => if p.isUnreadable then [] else [p.text]
  | problems => problems.map Problem.text

/-- The rules of a file, if their patterns make a set. -/
def RuleFile.ofRules (rules : List Rule) (problems : List Problem) : RuleFile :=
  match Glob.setError? true (rules.map Rule.glob) with
  | none => ⟨rules, toldProblems problems⟩
  | some e => ⟨[], toldProblems problems ++ [e.message]⟩

/-- Reads a file of rules; there are none where there is no file. -/
def load (t : FileTree) (path : FilePath) : RuleFile :=
  match t.find path with
  | .error _ => {}
  | .ok (.file content) =>
      let (rules, problems) := readLines path 1 (Text.linesBy 0x0A 0x0D content)
      .ofRules rules problems
  | .ok _ => .ofRules [] [unreadableLine path 1 .isDirectory]

end PullDiagnostics.Ignore
