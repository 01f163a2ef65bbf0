import PullDiagnostics.Shell.Script

/-!
# Reading shell scripts

A script is read line by line. Every reader takes what it reads from the start of the text
and gives back the rest; the fuel bounds how deep readers call each other, and a few units
for each character are enough.
-/

namespace PullDiagnostics.Shell

namespace Parser

/-- Where a stretch of a word stands. -/
inductive Place where
  | bare
  | quoted
  | braced
  | bracedQuoted
  | here
  deriving DecidableEq

/-- Characters that end a bare word. -/
def isMeta (c : Char) : Bool :=
  " \t\n;&|<>()".toList.contains c

/-- Whether a character neither quotes nor stands for anything. -/
def isOrdinary (c : Char) : Bool :=
  !("\\'\"$\x60".toList.contains c)

/-- Characters of names. -/
def isNameChar (c : Char) : Bool :=
  c.isAlphanum || c = '_'

/-- Whether a text is a name. -/
def isName (text : List Char) : Bool :=
  !text.isEmpty && text.all isNameChar && !(text.head?.any Char.isDigit)

namespace Place

/-- Whether a stretch ends before a character. -/
def endsBefore (p : Place) (c : Char) : Bool :=
  match p with
  | .bare => isMeta c
  | .quoted => c = '"'
  | .braced | .bracedQuoted => c = '\x7d'
  | .here => false

/-- Whether what stands there is quoted. -/
def isQuoted : Place → Bool
  | .bare | .braced => false
  | .quoted | .bracedQuoted | .here => true

/-- Whether a quotation can begin there. -/
def opensQuotes : Place → Bool
  | .bare | .braced | .bracedQuoted => true
  | .quoted | .here => false

/-- Whether a character stands for itself. -/
def isPlain (p : Place) (c : Char) : Bool :=
  !(p.endsBefore c || c = '\\' || c = '$' || c = '\x60' ||
    (!p.isQuoted && c = '\'') || (p.opensQuotes && c = '"'))

/-- Whether a backslash takes the meaning of a character. -/
def escapes (p : Place) (c : Char) : Bool :=
  !p.isQuoted || c = '$' || c = '\x60' || c = '\\' || c = '\n' || (c = '"' && p ≠ .here) ||
    (c = '\x7d' && p = .bracedQuoted)

/-- What is wrong if the text ends there. -/
def unended : Place → ScriptFault
  | .braced => .missingBrace
  | _ => .unterminatedString

end Place

/-- The text without blanks at its start, and without line ends that a backslash hides. -/
def skipBlanks : List Char → List Char
  | ' ' :: rest | '\t' :: rest => skipBlanks rest
  | '\\' :: '\n' :: rest => skipBlanks rest
  | text => text

/-- The text after blanks and a comment. -/
def skipComment (text : List Char) : List Char :=
  match skipBlanks text with
  | '#' :: rest => rest.dropWhile (· ≠ '\n')
  | text => text

/-- The text after blanks, comments and line ends. -/
def skipLines : (fuel : Nat) → List Char → List Char
  | 0, text => text
  | fuel + 1, text =>
      match skipComment text with
      | '\n' :: rest => skipLines fuel rest
      | text => text

/-- The bare text up to the next character with a meaning, which is how reserved words are
seen. -/
def nextWord (text : List Char) : List Char :=
  text.takeWhile fun c => !isMeta c

/-- Words that end a list of commands. -/
def closingWords : List String :=
  ["then", "else", "elif", "fi", "do", "done", "esac", "\x7d"]

/-- Words with a meaning where a command can begin. -/
def reservedWords : List String :=
  closingWords ++ ["!", "case", "for", "if", "in", "until", "while", "\x7b"]

/-- Commands of the shell that no function can take the name of. -/
def specialCommands : List String :=
  [".", ":", "break", "continue", "eval", "exec", "exit", "export", "local",
    "readonly", "return", "set", "shift", "times", "trap", "unset"]

/-- Whether a list of commands ends before the text. -/
def closes (text : List Char) : Bool :=
  text.head? = some ')' || ";;".toList.isPrefixOf text ||
    closingWords.any fun w => w.toList = nextWord text

/-- Whether a word sets a variable. -/
def isAssignment (word : List Char) : Bool :=
  isName (word.takeWhile isNameChar) && (word.dropWhile isNameChar).head? = some '='

/-- A word between quotation marks, as faults show it. -/
def shown (word : List Char) : String :=
  String.ofList ('"' :: word ++ ['"'])

/-- A fault that is seen before the rest of a text. -/
def Misreading.before (f : ScriptFault) (rest : List Char) : Misreading :=
  ⟨f, rest.count '\n'⟩

/-- What readers say that ran out of fuel. -/
def exhausted : Misreading :=
  ⟨.unexpected "end of file" none, 0⟩

/-- The text between back quotes, with its backslashes undone, and the rest. -/
def readBackQuoted : List Char → Except Misreading (List Char × List Char)
  | [] => .error ⟨.openBackQuote, 0⟩
  | '\x60' :: rest => .ok ([], rest)
  | '\\' :: c :: rest =>
      (readBackQuoted rest).map fun (text, left) =>
        (if c = '\x60' || c = '\\' || c = '$' then c :: text else '\\' :: c :: text, left)
  | c :: rest => (readBackQuoted rest).map fun (text, left) => (c :: text, left)

/-- The lines up to the one that is a given word, and what follows it. -/
def readHere (tabs : Bool) (word : List Char) :
    (fuel : Nat) → List Char → List Char × List Char
  | 0, text => ([], text)
  | fuel + 1, text =>
      if text.isEmpty then ([], [])
      else
        let line := text.takeWhile (· ≠ '\n')
        let ended := text.drop line.length
        let shown := if tabs then line.dropWhile (· = '\t') else line
        if shown = word then ([], ended.drop 1)
        else
          let (more, left) := readHere tabs word fuel (ended.drop 1)
          (shown ++ ended.take 1 ++ more, left)

/-- Whether a part of a word is a text that is quoted. -/
def isQuotedText : WordPart → Bool
  | .text quoted _ => quoted
  | _ => false

/-- The text of a part of a word that stands for itself. -/
def shownText : WordPart → List Char
  | .text _ chars => chars
  | _ => []

/-- Special parameters. -/
def isSpecial (c : Char) : Bool :=
  "@*#?$!-".toList.contains c || c.isDigit

/-- The name of a parameter inside braces. -/
def readBracedName (text : List Char) : List Char × List Char :=
  match text with
  | c :: rest =>
      if c.isDigit then (text.takeWhile Char.isDigit, text.dropWhile Char.isDigit)
      else if isSpecial c then ([c], rest)
      else (text.takeWhile isNameChar, text.dropWhile isNameChar)
  | [] => ([], [])

/-- The digit for a descriptor that a redirection starts with. -/
def readDescriptor (text : List Char) : Option Nat × List Char :=
  match text with
  | d :: c :: rest =>
      if d.isDigit && (c = '<' || c = '>') then (some (d.toNat - 48), c :: rest)
      else (none, text)
  | _ => (none, text)

/-- A token that is no word, as faults name it, and the text after it. -/
def operatorToken? (text : List Char) : Option (String × List Char) :=
  match text with
  | [] => some ("end of file", [])
  | '\n' :: rest => some ("newline", rest)
  | '&' :: '&' :: rest => some (shown ['&', '&'], rest)
  | '|' :: '|' :: rest => some (shown ['|', '|'], rest)
  | ';' :: ';' :: rest => some (shown [';', ';'], rest)
  | c :: rest =>
      let start := (readDescriptor text).2
      if start.head? = some '<' || start.head? = some '>' then
        some ("redirection", start.drop 1)
      else if isMeta c then some (shown [c], rest)
      else none

mutual

/-- Reads the parts of a word or of a stretch of one. -/
def readParts : (fuel : Nat) → Place → List Char → Except Misreading (Word × List Char)
  | 0, _, _ => .error exhausted
  | _, p, [] =>
      if p = .bare || p = .here then .ok ([], []) else .error ⟨p.unended, 0⟩
  | fuel + 1, p, c :: rest => do
      if p.endsBefore c then pure ([], c :: rest)
      else
        let (part, left) ← readPart fuel p c rest
        let (parts, left) ← readParts fuel p left
        pure (part ++ parts, left)

/-- Reads the parts that start with a character. -/
def readPart : (fuel : Nat) → Place → Char → List Char → Except Misreading (Word × List Char)
  | 0, _, _, _ => .error exhausted
  | fuel + 1, p, c, rest => do
      if c = '\\' then
        match rest with
        | [] => pure ([.text true ['\\']], [])
        | d :: left =>
            if p.escapes d then
              pure (if d = '\n' then [] else [.text true [d]], left)
            else pure ([.text true ['\\']], rest)
      else if c = '$' then readDollar fuel p.isQuoted rest
      else if c = '\x60' then
        let (inner, left) ← readBackQuoted rest
        let (commands, unread) ← readList fuel true inner
        if unread.isEmpty then
          pure ([.output p.isQuoted (some (inner.count '\n')) commands], left)
        else .error (misread fuel true none unread)
      else if c = '\'' && !p.isQuoted then
        if rest.contains '\'' then
          pure ([.text true (rest.takeWhile (· ≠ '\''))],
            (rest.dropWhile (· ≠ '\'')).drop 1)
        else .error ⟨.unterminatedString, 0⟩
      else if c = '"' && p.opensQuotes then
        let (parts, left) ← readParts fuel .quoted rest
        pure (if parts.isEmpty then [.text true []] else parts, left.drop 1)
      else
        let more := rest.takeWhile p.isPlain
        pure ([.text p.isQuoted (c :: more)], rest.drop more.length)

/-- Reads the parts of an arithmetic expression up to the two parentheses that end it, inside of
some more that are open. -/
def readExpression : (fuel : Nat) → (depth : Nat) → List Char →
    Except Misreading (Word × List Char)
  | 0, _, _ => .error exhausted
  | _, _, [] => .error ⟨.missingParentheses, 0⟩
  | fuel + 1, depth, c :: rest => do
      if c = ')' && depth = 0 && rest.head? = some ')' then pure ([], rest.tail)
      else if c = '(' || c = ')' then
        let (parts, left) ← readExpression fuel (if c = '(' then depth + 1 else depth - 1) rest
        pure (.text true [c] :: parts, left)
      else
        let more := rest.takeWhile fun d => Place.quoted.isPlain d && d ≠ '(' && d ≠ ')'
        let (part, left) ←
          if c = '\\' || c = '$' || c = '\x60' then readPart fuel .quoted c rest
          else pure ([.text true (c :: more)], rest.drop more.length)
        let (parts, left) ← readExpression fuel depth left
        pure (part ++ parts, left)

/-- Reads what a dollar sign stands for. -/
def readDollar : (fuel : Nat) → (quoted : Bool) → List Char → Except Misreading (Word × List Char)
  | 0, _, _ => .error exhausted
  | fuel + 1, quoted, text => do
      match text with
      | '(' :: '(' :: rest =>
          let (parts, left) ← readExpression fuel 0 rest
          pure ([.arithmetic quoted parts], left)
      | '(' :: rest =>
          let (commands, left) ← readList fuel true rest
          let (_, left) ← expectClosing fuel left
          pure ([.output quoted none commands], left)
      | '\x7b' :: '#' :: rest =>
          let (name, left) := readBracedName rest
          match name, left with
          | _ :: _, '\x7d' :: left => pure ([.parameter quoted (String.ofList name) .length], left)
          | c :: _, left =>
              if isNameChar c then readUnknown fuel quoted left
              else readBraced fuel quoted "#" rest
          | [], c :: '\x7d' :: left =>
              if c = '\x7d' then readBraced fuel quoted "#" rest
              else readUnknown fuel quoted ('\x7d' :: left)
          | [], _ => readBraced fuel quoted "#" rest
      | '\x7b' :: rest =>
          let (name, left) := readBracedName rest
          if name.isEmpty then readUnknown fuel quoted left
          else readBraced fuel quoted (String.ofList name) left
      | c :: rest =>
          if isSpecial c then pure ([.parameter quoted (String.singleton c) .none], rest)
          else if isNameChar c then
            let name := text.takeWhile isNameChar
            pure ([.parameter quoted (String.ofList name) .none], text.drop name.length)
          else pure ([.text quoted ['$']], text)
      | [] => pure ([.text quoted ['$']], [])

/-- Reads what follows the name of a parameter inside braces. -/
def readBraced : (fuel : Nat) → (quoted : Bool) → (name : String) → List Char →
    Except Misreading (Word × List Char)
  | 0, _, _, _ => .error exhausted
  | fuel + 1, quoted, name, text => do
      let (change, left) ← readChange fuel quoted text
      match change, left with
      | .unknown, _ => readUnknown fuel quoted left
      | _, '\x7d' :: left => pure ([.parameter quoted name change], left)
      | _, _ => readUnknown fuel quoted left

/-- Reads up to the end of braces that hold nothing known. -/
def readUnknown : (fuel : Nat) → (quoted : Bool) → List Char → Except Misreading (Word × List Char)
  | 0, _, _ => .error exhausted
  | fuel + 1, quoted, text => do
      let (_, left) ← readParts fuel (if quoted then .bracedQuoted else .braced) text
      pure ([.parameter quoted "" .unknown], left.drop 1)

/-- Reads what is done with a parameter inside braces. -/
def readChange : (fuel : Nat) → (quoted : Bool) → List Char → Except Misreading (Change × List Char)
  | 0, _, _ => .error exhausted
  | fuel + 1, quoted, text => do
      let p := if quoted then Place.bracedQuoted else Place.braced
      let (alsoEmpty, body) : Bool × List Char :=
        match text with | ':' :: rest => (true, rest) | _ => (false, text)
      match body with
      | '-' :: rest =>
          let (word, left) ← readParts fuel p rest
          pure (.fallback alsoEmpty word, left)
      | '=' :: rest =>
          let (word, left) ← readParts fuel p rest
          pure (.assign alsoEmpty word, left)
      | '+' :: rest =>
          let (word, left) ← readParts fuel p rest
          pure (.alternative alsoEmpty word, left)
      | '?' :: rest =>
          let (word, left) ← readParts fuel p rest
          pure (.demand alsoEmpty word, left)
      | '#' :: '#' :: rest =>
          let (word, left) ← readParts fuel .braced rest
          pure (.cut false true word, left)
      | '#' :: rest =>
          let (word, left) ← readParts fuel .braced rest
          pure (.cut false false word, left)
      | '%' :: '%' :: rest =>
          let (word, left) ← readParts fuel .braced rest
          pure (.cut true true word, left)
      | '%' :: rest =>
          let (word, left) ← readParts fuel .braced rest
          pure (.cut true false word, left)
      | '\x7d' :: rest => if alsoEmpty then pure (.unknown, rest) else pure (.none, text)
      | _ => pure (.none, text)

/-- What is wrong with a text that goes on with a token that cannot stand there. -/
def misread : (fuel : Nat) → (reserved : Bool) → (wanted : Option String) → List Char →
    Misreading
  | 0, _, _, _ => exhausted
  | fuel + 1, reserved, wanted, text =>
      let text := skipComment text
      match operatorToken? text with
      | some (token, rest) => Misreading.before (.unexpected token wanted) rest
      | none =>
          match readParts fuel .bare text with
          | .error m => m
          | .ok (_, rest) =>
              let word := nextWord text
              let isReserved := reserved && reservedWords.contains (String.ofList word)
              Misreading.before
                (.unexpected (if isReserved then shown word else "word") wanted) rest

/-- Takes a reserved word. -/
def expect : (fuel : Nat) → (word : String) → List Char → Except Misreading (Unit × List Char)
  | 0, _, _ => .error exhausted
  | fuel + 1, word, text =>
      let text := skipLines fuel text
      if nextWord text = word.toList then .ok ((), text.drop word.length)
      else .error (misread fuel true (some (shown word.toList)) text)

/-- Takes a closing parenthesis. -/
def expectClosing : (fuel : Nat) → List Char → Except Misreading (Unit × List Char)
  | 0, _ => .error exhausted
  | fuel + 1, text =>
      match skipLines fuel text with
      | ')' :: left => .ok ((), left)
      | text => .error (misread fuel true (some (shown [')'])) text)

/-- Reads a line of commands, or more lines if commands go on over them. -/
def readLine : (fuel : Nat) → List Char → Except Misreading (List Command × List Char)
  | 0, _ => .error exhausted
  | fuel + 1, text => do
      let (command, left) ← readAndOr fuel text
      let left := skipComment left
      match left with
      | ';' :: ';' :: _ => .error (misread fuel true none left)
      | ';' :: rest =>
          let (commands, left) ← readLineRest fuel rest
          pure (command :: commands, left)
      | '&' :: rest =>
          let (commands, left) ← readLineRest fuel rest
          pure (.background command :: commands, left)
      | '\n' :: rest => pure ([command], rest)
      | [] => pure ([command], [])
      | _ => .error (misread fuel true none left)

/-- Reads what follows a command on its line. -/
def readLineRest : (fuel : Nat) → List Char → Except Misreading (List Command × List Char)
  | 0, _ => .error exhausted
  | fuel + 1, text =>
      match skipComment text with
      | [] => .ok ([], [])
      | '\n' :: rest => .ok ([], rest)
      | text => readLine fuel text

/-- Reads commands up to the end of the text, a closing parenthesis, double semicolons or a
word that ends a list. -/
def readList : (fuel : Nat) → (mayBeEmpty : Bool) → List Char →
    Except Misreading (List Command × List Char)
  | 0, _, _ => .error exhausted
  | fuel + 1, mayBeEmpty, text => do
      let text := skipLines fuel text
      if text.isEmpty || (mayBeEmpty && closes text) then pure ([], text)
      else
        let (command, left) ← readAndOr fuel text
        match skipComment left with
        | ';' :: ';' :: rest => pure ([command], ';' :: ';' :: rest)
        | ';' :: rest | '\n' :: rest => do
            let (commands, left) ← readList fuel true rest
            pure (command :: commands, left)
        | '&' :: rest => do
            let (commands, left) ← readList fuel true rest
            pure (.background command :: commands, left)
        | left => pure ([command], left)

/-- Reads commands of which each runs according to how the ones before it have ended. -/
def readAndOr : (fuel : Nat) → List Char → Except Misreading (Command × List Char)
  | 0, _ => .error exhausted
  | fuel + 1, text => do
      let (command, left) ← readPipeline fuel text
      readAndOrRest fuel command left

/-- Reads what follows a command on the condition that it succeeds or fails. -/
def readAndOrRest : (fuel : Nat) → Command → List Char → Except Misreading (Command × List Char)
  | 0, _, _ => .error exhausted
  | fuel + 1, first, text => do
      match skipComment text with
      | '&' :: '&' :: rest =>
          let (second, left) ← readPipeline fuel (skipLines fuel rest)
          readAndOrRest fuel (.both first second) left
      | '|' :: '|' :: rest =>
          let (second, left) ← readPipeline fuel (skipLines fuel rest)
          readAndOrRest fuel (.either first second) left
      | _ => pure (first, text)

/-- Reads commands with bars between them. -/
def readPipeline : (fuel : Nat) → List Char → Except Misreading (Command × List Char)
  | 0, _ => .error exhausted
  | fuel + 1, text => do
      let text := skipComment text
      let isNegated := nextWord text = ['!']
      let (commands, left) ← readPipes fuel (if isNegated then text.drop 1 else text)
      let command := match commands with | [command] => command | _ => .pipeline commands
      pure (if isNegated then .negated command else command, left)

/-- Reads the commands of a pipeline. -/
def readPipes : (fuel : Nat) → List Char → Except Misreading (List Command × List Char)
  | 0, _ => .error exhausted
  | fuel + 1, text => do
      let (command, left) ← readCommand fuel text
      match skipComment left with
      | '|' :: rest =>
          if rest.head? = some '|' then pure ([command], left)
          else
            let (commands, left) ← readPipes fuel (skipLines fuel rest)
            pure (command :: commands, left)
      | _ => pure ([command], left)

/-- Reads one command with its redirections. -/
def readCommand : (fuel : Nat) → List Char → Except Misreading (Command × List Char)
  | 0, _ => .error exhausted
  | fuel + 1, text => do
      let text := skipComment text
      let word := String.ofList (nextWord text)
      let after := text.drop word.length
      let lineEnds := text.count '\n'
      match text with
      | '(' :: rest =>
          let (body, left) ← readList fuel false rest
          let (_, left) ← expectClosing fuel left
          readTail fuel lineEnds (.subshell body) left
      | _ =>
          if word = "\x7b" then
            let (body, left) ← readList fuel false after
            let (_, left) ← expect fuel "\x7d" left
            readTail fuel lineEnds (.group body) left
          else if word = "if" then
            let (command, left) ← readBranches fuel [] after
            readTail fuel lineEnds command left
          else if word = "while" || word = "until" then
            let (condition, left) ← readList fuel false after
            let (_, left) ← expect fuel "do" left
            let (body, left) ← readList fuel false left
            let (_, left) ← expect fuel "done" left
            readTail fuel lineEnds (.loop (word = "until") condition body) left
          else if word = "for" then readFor fuel lineEnds (skipComment after)
          else if word = "case" then
            let (subject, left) ← readParts fuel .bare (skipComment after)
            if subject.isEmpty then .error (misread fuel false (some "word") after)
            else
              let (_, left) ← expect fuel "in" left
              let (branches, left) ← readCases fuel left
              readTail fuel lineEnds (.select lineEnds subject branches) left
          else if reservedWords.contains word then .error (misread fuel true none text)
          else
            match skipComment after with
            | '(' :: rest =>
                if word.isEmpty || isAssignment word.toList || !word.toList.all isOrdinary then
                  readSimple fuel lineEnds [] [] [] text
                else
                  match skipComment rest with
                  | ')' :: left =>
                      if !isName word.toList || specialCommands.contains word then
                        .error (Misreading.before .badFunctionName left)
                      else
                        let (body, left) ← readCommand fuel (skipLines fuel left)
                        pure (.define word body, left)
                  | rest => .error (misread fuel false (some (shown [')'])) rest)
            | _ => readSimple fuel lineEnds [] [] [] text

/-- Reads the redirections after a compound command. -/
def readTail : (fuel : Nat) → (lineEnds : Nat) → Command → List Char →
    Except Misreading (Command × List Char)
  | 0, _, _, _ => .error exhausted
  | fuel + 1, lineEnds, command, text => do
      let (redirections, left) ← readRedirections fuel text
      pure (if redirections.isEmpty then command
        else .redirected lineEnds command redirections, left)

/-- Reads redirections. -/
def readRedirections : (fuel : Nat) → List Char → Except Misreading (List Redirection × List Char)
  | 0, _ => .error exhausted
  | fuel + 1, text => do
      let (number, start) := readDescriptor (skipComment text)
      match start with
      | c :: _ =>
          if c = '<' || c = '>' then
            let (redirection, left) ← readRedirection fuel number start
            let (more, left) ← readRedirections fuel left
            pure (redirection :: more, left)
          else pure ([], text)
      | [] => pure ([], text)

/-- Reads one redirection, of which the descriptor is read already. -/
def readRedirection : (fuel : Nat) → Option Nat → List Char →
    Except Misreading (Redirection × List Char)
  | 0, _, _ => .error exhausted
  | fuel + 1, number, text => do
      let directed (kind : RedirectionKind) (usual : Nat) (rest : List Char) :
          Except Misreading (Redirection × List Char) := do
        let (target, left) ← readParts fuel .bare (skipComment rest)
        if target.isEmpty then .error (misread fuel false none rest)
        else pure (.mk (number.getD usual) kind target, left)
      match text with
      | '<' :: '<' :: rest =>
          let (tabs, rest) : Bool × List Char :=
            match rest with | '-' :: rest => (true, rest) | _ => (false, rest)
          let (word, left) ← readParts fuel .bare (skipComment rest)
          if word.isEmpty then .error (misread fuel false none rest)
          else
            let line := left.takeWhile (· ≠ '\n')
            let quoted := word.any isQuotedText
            let (body, after) :=
              readHere tabs (word.flatMap shownText) left.length (left.drop (line.length + 1))
            let left := line ++ '\n' :: after
            if quoted then pure (.mk (number.getD 0) .here [.text true body], left)
            else
              let (parts, _) ← readParts fuel .here body
              pure (.mk (number.getD 0) .here (.text true [] :: parts), left)
      | '<' :: '&' :: rest => directed .duplicate 0 rest
      | '<' :: '>' :: rest => directed .inputOutput 0 rest
      | '<' :: rest => directed .input 0 rest
      | '>' :: '>' :: rest => directed .append 1 rest
      | '>' :: '&' :: rest => directed .duplicate 1 rest
      | '>' :: '|' :: rest => directed .overwrite 1 rest
      | '>' :: rest => directed .output 1 rest
      | _ => .error exhausted

/-- Reads the branches of a choice after the word that begins one. -/
def readBranches : (fuel : Nat) → List (List Command × List Command) → List Char →
    Except Misreading (Command × List Char)
  | 0, _, _ => .error exhausted
  | fuel + 1, before, text => do
      let (condition, left) ← readList fuel false text
      let (_, left) ← expect fuel "then" left
      let (body, left) ← readList fuel false left
      let branches := before ++ [(condition, body)]
      let left := skipLines fuel left
      let word := String.ofList (nextWord left)
      if word = "elif" then readBranches fuel branches (left.drop 4)
      else if word = "else" then
        let (otherwise, left) ← readList fuel false (left.drop 4)
        let (_, left) ← expect fuel "fi" left
        pure (.choice branches otherwise, left)
      else
        let (_, left) ← expect fuel "fi" left
        pure (.choice branches [], left)

/-- Reads a loop over words after the word that begins it. -/
def readFor : (fuel : Nat) → (lineEnds : Nat) → List Char → Except Misreading (Command × List Char)
  | 0, _, _ => .error exhausted
  | fuel + 1, lineEnds, text => do
      let name := nextWord text
      if !isName name then
        match operatorToken? text with
        | some (_, rest) => .error (Misreading.before .badLoopVariable rest)
        | none =>
            let (_, rest) ← readParts fuel .bare text
            .error (Misreading.before .badLoopVariable rest)
      else
        let left := skipLines fuel (text.drop name.length)
        if nextWord left = "in".toList then
          let (words, left) ← readWords fuel (left.drop 2)
          match left with
          | ';' :: ';' :: _ => .error (misread fuel false none left)
          | ';' :: rest | '\n' :: rest =>
              readForBody fuel lineEnds (String.ofList name) (some words) rest
          | _ => .error (misread fuel false none left)
        else
          let left := match left with
            | ';' :: ';' :: _ => left
            | ';' :: rest => rest
            | _ => left
          readForBody fuel lineEnds (String.ofList name) none left

/-- Reads the body of a loop over words. -/
def readForBody : (fuel : Nat) → (lineEnds : Nat) → String → Option (List Word) →
    List Char → Except Misreading (Command × List Char)
  | 0, _, _, _, _ => .error exhausted
  | fuel + 1, lineEnds, name, words, text => do
      let (_, left) ← expect fuel "do" text
      let (body, left) ← readList fuel false left
      let (_, left) ← expect fuel "done" left
      readTail fuel lineEnds (.forEach lineEnds name words body) left

/-- Reads words up to the end of a command. -/
def readWords : (fuel : Nat) → List Char → Except Misreading (List Word × List Char)
  | 0, _ => .error exhausted
  | fuel + 1, text => do
      let text := skipComment text
      if (operatorToken? text).isSome then pure ([], text)
      else
        let (word, left) ← readParts fuel .bare text
        let (words, left) ← readWords fuel left
        pure (word :: words, left)

/-- Reads the branches of a selection. -/
def readCases : (fuel : Nat) → List Char →
    Except Misreading (List (List Word × List Command) × List Char)
  | 0, _ => .error exhausted
  | fuel + 1, text => do
      let text := skipLines fuel text
      if nextWord text = "esac".toList then pure ([], text.drop 4)
      else
        let start := match text with | '(' :: rest => rest | _ => text
        let (patterns, left) ← readPatterns fuel start
        let (body, left) ← readList fuel true left
        match skipLines fuel left with
        | ';' :: ';' :: rest => do
            let (branches, left) ← readCases fuel rest
            pure ((patterns, body) :: branches, left)
        | left =>
            if nextWord left = "esac".toList then pure ([(patterns, body)], left.drop 4)
            else .error (misread fuel true (some (shown [';', ';'])) left)

/-- Reads patterns with bars between them, up to a closing parenthesis. A token that is no word
stands for an empty pattern. -/
def readPatterns : (fuel : Nat) → List Char → Except Misreading (List Word × List Char)
  | 0, _ => .error exhausted
  | fuel + 1, text => do
      let text := skipComment text
      let (pattern, left) : Word × List Char ←
        match operatorToken? text with
        | some (_, left) => pure ([], left)
        | none => readParts fuel .bare text
      match skipComment left with
      | ')' :: rest => pure ([pattern], rest)
      | '|' :: rest => do
          let (patterns, left) ← readPatterns fuel rest
          pure (pattern :: patterns, left)
      | left => .error (misread fuel false (some (shown [')'])) left)

/-- Reads the assignments, words and redirections of a simple command. Its line is the one in
which its first word ends. -/
def readSimple : (fuel : Nat) → (lineEnds : Nat) → List (String × Word) → List Word →
    List Redirection → List Char → Except Misreading (Command × List Char)
  | 0, _, _, _, _, _ => .error exhausted
  | fuel + 1, lineEnds, assignments, words, redirections, text => do
      let text := skipComment text
      let isFirst := assignments.isEmpty && words.isEmpty && redirections.isEmpty
      let lineAt (left : List Char) : Nat := if isFirst then left.count '\n' else lineEnds
      let (number, start) := readDescriptor text
      if start.head? = some '<' || start.head? = some '>' then
        let (redirection, left) ← readRedirection fuel number start
        readSimple fuel lineEnds assignments words (redirection :: redirections) left
      else if (operatorToken? text).isSome then
        if isFirst then .error (misread fuel true none text)
        else if text.head? = some '(' && words.length = 1 && assignments.isEmpty &&
            redirections.isEmpty then
          match skipComment text.tail with
          | ')' :: left => .error (Misreading.before .badFunctionName left)
          | left => .error (misread fuel false (some (shown [')'])) left)
        else
          pure (.simple lineEnds assignments.reverse words.reverse redirections.reverse, text)
      else if words.isEmpty && isAssignment (nextWord text) then
        let name := text.takeWhile isNameChar
        let (value, left) ← readParts fuel .bare (text.drop (name.length + 1))
        readSimple fuel (lineAt left) ((String.ofList name, value) :: assignments) words
          redirections left
      else
        let (word, left) ← readParts fuel .bare text
        readSimple fuel (lineAt left) assignments (word :: words) redirections left

end

/-- Reads a script line by line, up to the first line that cannot be read. -/
def readScript : (fuel : Nat) → List Char → Script
  | 0, _ => ⟨[], some exhausted⟩
  | fuel + 1, text =>
      let text := skipLines fuel text
      if text.isEmpty then ⟨[], none⟩
      else
        match readLine fuel text with
        | .error m => ⟨[], some m⟩
        | .ok (commands, left) =>
            let rest := readScript fuel left
            { rest with commands := commands ++ rest.commands }

end Parser

/-- Reads a script. -/
def parse (text : List Char) : Script :=
  Parser.readScript (16 * text.length + 64) text

end PullDiagnostics.Shell
