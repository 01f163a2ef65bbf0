import PullDiagnostics.Bytes

/-!
# Shell scripts

What a script says once it is read: commands, and the words that they are made of. A word is
a list of parts, of which some stand for text that is only known when the script runs. Where
the line of a command matters, it is told by the number of line ends after it, which is what
a reader of the text can see.
-/

namespace PullDiagnostics.Shell

/-- What a redirection does with its descriptor. -/
inductive RedirectionKind where
  | input
  | output
  /-- Output over a file that is there, even if an option keeps such files. -/
  | overwrite
  | append
  /-- Input from a file that need not be there yet. -/
  | inputOutput
  /-- The descriptor becomes another name of an open one. -/
  | duplicate
  /-- The text follows in the script itself. -/
  | here
  deriving DecidableEq, Inhabited

mutual

/-- A part of a word. Parts that are not quoted may fall into several fields. -/
inductive WordPart where
  | text (quoted : Bool) (chars : List Char)
  | parameter (quoted : Bool) (name : String) (change : Change)
  /-- The value of an arithmetic expression. -/
  | arithmetic (quoted : Bool) (expression : List WordPart)
  /-- What commands write. Commands between back quotes count their own line ends. -/
  | output (quoted : Bool) (ownLineEnds : Option Nat) (commands : List Command)

/-- What is made of the value of a parameter. -/
inductive Change where
  | none
  | length
  /-- Another word in place of a parameter that is not set, or also of an empty one. -/
  | fallback (alsoEmpty : Bool) (word : List WordPart)
  /-- The same, and the parameter is set to that word. -/
  | assign (alsoEmpty : Bool) (word : List WordPart)
  /-- Another word in place of a parameter that is set. -/
  | alternative (alsoEmpty : Bool) (word : List WordPart)
  /-- The script ends if the parameter is not set. -/
  | demand (alsoEmpty : Bool) (word : List WordPart)
  /-- What a pattern matches is cut off. -/
  | cut (atEnd longest : Bool) (pattern : List WordPart)
  /-- Nothing that is known; the script ends when it comes here. -/
  | unknown

/-- Where a descriptor leads while a command runs. -/
inductive Redirection where
  | mk (descriptor : Nat) (kind : RedirectionKind) (target : List WordPart)

/-- A command. -/
inductive Command where
  | simple (after : Nat) (assignments : List (String × List WordPart))
      (words : List (List WordPart)) (redirections : List Redirection)
  | both (first second : Command)
  | either (first second : Command)
  | negated (command : Command)
  | pipeline (commands : List Command)
  /-- A command that nobody waits for. -/
  | background (command : Command)
  | group (body : List Command)
  | subshell (body : List Command)
  | choice (branches : List (List Command × List Command)) (otherwise : List Command)
  /-- A loop that runs as long as its condition succeeds, or as long as it fails. -/
  | loop (whileFails : Bool) (condition body : List Command)
  | forEach (after : Nat) (name : String) (words : Option (List (List WordPart)))
      (body : List Command)
  | select (after : Nat) (word : List WordPart)
      (branches : List (List (List WordPart) × List Command))
  | define (name : String) (body : Command)
  | redirected (after : Nat) (command : Command) (redirections : List Redirection)

end

instance : Inhabited WordPart := ⟨.text false []⟩

instance : Inhabited Command := ⟨.group []⟩

/-- A word. -/
abbrev Word := List WordPart

/-- Why a text is no script. -/
inductive ScriptFault where
  /-- A token stands where it cannot stand, and maybe in place of the only one that can. -/
  | unexpected (token : String) (wanted : Option String)
  | unterminatedString
  | missingBrace
  | missingParentheses
  | openBackQuote
  | badLoopVariable
  | badFunctionName
  deriving DecidableEq, Inhabited

/-- What the shell says of a text that is no script. -/
def ScriptFault.message (f : ScriptFault) : String :=
  "Syntax error: " ++
    match f with
    | .unexpected token none => token ++ " unexpected"
    | .unexpected token (some wanted) => token ++ " unexpected (expecting " ++ wanted ++ ")"
    | .unterminatedString => "Unterminated quoted string"
    | .missingBrace => "Missing '\x7d'"
    | .missingParentheses => "Missing '))'"
    | .openBackQuote => "EOF in backquote substitution"
    | .badLoopVariable => "Bad for loop variable"
    | .badFunctionName => "Bad function name"

/-- A fault, and the number of line ends after what shows it. -/
structure Misreading where
  fault : ScriptFault
  after : Nat
  deriving DecidableEq, Inhabited

/-- A script: the commands of its lines up to the first line that cannot be read, and what
is wrong there. -/
structure Script where
  commands : List Command
  misreading : Option Misreading := none
  deriving Inhabited

end PullDiagnostics.Shell
