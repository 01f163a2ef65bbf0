import PullDiagnostics.Shell.Arithmetic
import PullDiagnostics.Shell.Builtin
import PullDiagnostics.Shell.Home

/-!
# Running shell scripts

Commands change the state of the shell and say how the commands after them go on. What a
script can do is what it can be read to say, the commands of the shell itself, and a few
programs that print and search files. The fuel bounds how deep commands call each other,
where each round of a loop calls the next one.
-/

namespace PullDiagnostics.Shell

/-- How a loop goes on after a round of it, and whether it does. -/
def afterRound : Flow → Option Flow
  | .next => none
  | .leave n => some (if n ≤ 1 then .next else .leave (n - 1))
  | .nextRound n => if n ≤ 1 then none else some (.nextRound (n - 1))
  | flow => some flow

/-- How things go on after commands that ran apart: only a signal reaches beyond them. -/
def afterApart : Flow → Flow
  | .killed signal => .killed signal
  | _ => .next

/-- How things go on after a function: only the end of the shell reaches beyond it. -/
def afterFunction : Flow → Flow
  | .killed signal => .killed signal
  | .exit => .exit
  | _ => .next

/-- How things go on after a command that may have failed: an option ends the shell then,
unless something else is done about the failure. -/
def checked : Flow × State → Flow × State
  | (.next, s) =>
      if s.isOver then (s.flow, s)
      else if s.has 'e' && !s.isTested && s.status ≠ 0 then (.exit, s)
      else (.next, s)
  | ended => ended

/-- The line that shows a command before it runs: its assignments and words. -/
def traceLine (mark : Bytes) (assignments : List (String × Bytes)) (words : List Bytes) : Bytes :=
  mark ++ Format.spaced ((assignments.map fun (n, v) => bytesOf (n ++ "=") ++ v) ++ words) ++ [0x0A]

/-- The number that a variable holds for an expression. -/
def numberOf (s : State) (name : String) : Except Arithmetic.Fault Int :=
  let value := (s.lookUp? name).getD []
  if value.all Numeral.isBlank then .ok 0
  else
    match Numeral.readInteger? value with
    | some (n, left) => if left.all Numeral.isBlank then .ok n else .error (.illegalNumber value)
    | none => .error (.illegalNumber value)

/-- Whether words that start with some fields declare variables. -/
def declares (fields : List Bytes) : Bool :=
  match fields.map textOf with
  | "command" :: name :: _ => ["alias", "export", "local", "readonly"].contains name
  | name :: _ => ["alias", "export", "local", "readonly"].contains name
  | [] => false

/-- What the program does that starts another one: settings of variables, and what is left of
the arguments. -/
def splitSettings : List Bytes → List (String × Bytes) × List Bytes
  | [] => ([], [])
  | argument :: rest =>
      match Builtin.splitAssignment argument with
      | (name, some value) =>
          let (settings, left) := splitSettings rest
          ((name, value) :: settings, left)
      | (_, none) => ([], argument :: rest)

mutual

/-- The stretches of an expanded word. -/
def expand : (fuel : Nat) → Word → State → List Segment × State
  | 0, _, s => ([], s)
  | _, [], s => ([], s)
  | fuel + 1, part :: rest, s =>
      if s.isOver then ([], s)
      else
        let (first, s) := expandPart fuel part s
        let (more, s) := expand fuel rest s
        (first ++ more, s)

/-- The stretches of a part of a word. -/
def expandPart : (fuel : Nat) → WordPart → State → List Segment × State
  | 0, _, s => ([], s)
  | fuel + 1, part, s =>
      let give (quoted : Bool) (bytes : Bytes) : List Segment :=
        if quoted then [.text true bytes] else [.split bytes]
      match part with
      | .text quoted chars => ([.text quoted (Utf8.encode chars)], s)
      | .arithmetic quoted expression =>
          let (segments, s) := expand fuel expression s
          let text := Utf8.decodeLossy (s.joined segments)
          if s.isOver then ([], s)
          else
            match Arithmetic.evaluate (numberOf s) text with
            | .ok (value, assigned) =>
                let spelled (n : Int) : Bytes := bytesOf (toString n)
                (give quoted (spelled value),
                  assigned.reverse.foldl (fun s (n, v) => s.setVariable n (spelled v)) s)
            | .error fault => ([], s.abandon (bytesOf (fault.message text)))
      | .output quoted ownLineEnds commands =>
          let (stream, inner) := s.newOutput
          let (flow, after) := runApart fuel commands
            { inner.direct 1 (.output stream) with
              isTested := false, lineEnds := ownLineEnds.getD s.lineEnds }
          let text := after.written stream
          let trimmed := (text.reverse.dropWhile (· = 0x0A)).reverse.filter (· ≠ 0)
          let s := { s.afterApart after with status := s.status, substituted := after.status }
          match flow with
          | .killed n => (give quoted trimmed, { s with isOver := true, signal := some n })
          | _ => (give quoted trimmed, s)
      | .parameter quoted name change =>
          let isAll := name = "@" || name = "*"
          let isList := name = "@" || (name = "*" && !quoted)
          let value : Option Bytes :=
            if isAll then some ((s.arguments.intersperse s.joint).flatten) else s.parameter? name
          let list (pieces : List Bytes) : List Segment :=
            ((pieces.map (give quoted)).intersperse [.break_]).flatten
          let changed (pieces : List Bytes) : List Segment :=
            if quoted && pieces.isEmpty then [.text true []] else list pieces
          let shown : List Segment :=
            if isList then changed s.arguments else give quoted (value.getD [])
          let counts (alsoEmpty : Bool) : Bool :=
            match value with
            | some v => !(alsoEmpty && v.isEmpty)
            | none => false
          let unset : List Segment × State :=
            ([], s.abandon (bytesOf (name ++ ": parameter not set")))
          match change with
          | .none =>
              if isList then (list s.arguments, s)
              else if value.isNone && s.has 'u' then unset
              else (give quoted (value.getD []), s)
          | .length =>
              if value.isNone && s.has 'u' then unset
              else (give quoted (decimal (value.getD []).length), s)
          | .fallback alsoEmpty word =>
              if counts alsoEmpty then (shown, s) else expandInPlace fuel quoted word s
          | .assign alsoEmpty word =>
              if counts alsoEmpty then (shown, s)
              else
                let (v, s) := expandText fuel quoted word s
                if s.isOver then ([], s) else (give quoted v, s.setVariable name v)
          | .alternative alsoEmpty word =>
              if counts alsoEmpty then expandInPlace fuel quoted word s else (give quoted [], s)
          | .demand alsoEmpty word =>
              if counts alsoEmpty then (shown, s)
              else
                let (text, s) := expandText fuel quoted word s
                let said := if word.isEmpty then
                    bytesOf ("parameter not set" ++ if alsoEmpty then " or null" else "")
                  else text
                ([], if s.isOver then s else s.abandon (bytesOf (name ++ ": ") ++ said))
          | .cut atEnd longest word =>
              if value.isNone && s.has 'u' then unset
              else
                let (segments, s) := expand fuel (withHomes s false true word) s
                let parts := s.pattern segments
                if isList then
                  (changed (if atEnd then PatternPart.cutEnds parts longest s.arguments
                    else PatternPart.cutStarts parts longest s.arguments), s)
                else
                  let v := value.getD []
                  (give quoted
                    (if atEnd then PatternPart.cutEnd parts longest v
                      else PatternPart.cutStart parts longest v), s)
          | .unknown => ([], s.abandon (bytesOf "Bad substitution"))

/-- The stretches of a word that stands in place of a parameter: in one that is not quoted, text
falls apart. -/
def expandInPlace : (fuel : Nat) → (quoted : Bool) → Word → State → List Segment × State
  | 0, _, _, s => ([], s)
  | fuel + 1, quoted, word, s =>
      if quoted then
        let (segments, s) := expand fuel word s
        (if segments.isEmpty then [.text true []] else segments, s)
      else
        let (segments, s) := expand fuel (withHomes s false true word) s
        (segments.map fun
          | .text false bytes => .split bytes
          | segment => segment, s)

/-- The bytes of a word that does not fall apart. Tildes mean nothing in one that is quoted. -/
def expandText : (fuel : Nat) → (quoted : Bool) → Word → State → Bytes × State
  | 0, _, _, s => ([], s)
  | fuel + 1, quoted, word, s =>
      let (segments, s) := expand fuel (if quoted then word else withHomes s false true word) s
      (s.joined segments, s)

/-- The fields of words, after the fields of the words before them. What is written like an
assignment is one field where variables are declared. -/
def expandAll : (fuel : Nat) → (before : List Bytes) → List Word → State → List Bytes × State
  | 0, before, _, s => (before, s)
  | _, before, [], s => (before, s)
  | fuel + 1, before, word :: rest, s =>
      if declares before && isSetting word then
        let (segments, s) := expand fuel (withHomesInSetting s word) s
        expandAll fuel (before ++ [s.joined segments]) rest s
      else
        let (segments, s) := expand fuel (withHomes s false true word) s
        expandAll fuel (before ++ s.fields segments) rest s

/-- The values of assignments. -/
def expandValues : (fuel : Nat) → List (String × Word) → State →
    List (String × Bytes) × State
  | 0, _, s => ([], s)
  | _, [], s => ([], s)
  | fuel + 1, (name, word) :: rest, s =>
      let (segments, s) := expand fuel (withHomes s true true word) s
      let value := s.joined segments
      let (more, s) := expandValues fuel rest (if s.isOver then s else s.setVariable name value)
      ((name, value) :: more, s)

/-- What stands before a command that is shown. -/
def expandMark : (fuel : Nat) → State → Bytes × State
  | 0, s => ([], s)
  | fuel + 1, s =>
      let chars := Utf8.decodeLossy ((s.lookUp? "PS4").getD [])
      match Parser.readParts (16 * chars.length + 64) .here chars with
      | .ok (word, _) =>
          let (segments, after) := expand fuel word { s with options := s.options.filter (· ≠ 'x') }
          (after.joined segments, { after with options := s.options, status := s.status })
      | .error _ => ([], s)

/-- Makes redirections one after the other, up to the first that cannot be made; and whether
all could. -/
def redirect : (fuel : Nat) → List Redirection → State → Bool × State
  | 0, _, s => (false, s)
  | _, [], s => (true, s)
  | fuel + 1, .mk n kind target :: rest, s =>
      let (name, s) : Bytes × State :=
        if kind = .here then
          let (segments, s) := expand fuel target s
          (s.joined segments, s)
        else expandText fuel false target s
      let path := s.resolve name
      let failed (text : Bytes) : Bool × State := (false, { s.complain text with status := 2 })
      let shown (text : String) (e : FileError) (reason : String) : Bytes :=
        bytesOf text ++ name ++
          bytesOf (": " ++ match e with | .notFound => reason | e => e.reason)
      if s.isOver then (false, s)
      else
        match kind with
        | .here =>
            let (stream, s) := s.newInput name
            redirect fuel rest (s.direct n (.input stream))
        | .duplicate =>
            match name with
            | [0x2D] => redirect fuel rest (s.direct n .closed)
            | [digit] =>
                if !Numeral.isDigit digit then
                  (false, s.abandon (bytesOf "Syntax error: Bad fd number"))
                else
                  match s.descriptors.find (digit.toNat - 48) with
                  | .closed => failed (digit :: bytesOf ": Bad file descriptor")
                  | d => redirect fuel rest (s.direct n d)
            | _ => (false, s.abandon (bytesOf "Syntax error: Bad fd number"))
        | .input =>
            if name = bytesOf "/dev/null" then redirect fuel rest (s.direct n .nowhere)
            else if name = bytesOf "/dev/stdin" then
              redirect fuel rest (s.direct n (s.descriptors.find 0))
            else
              match s.tree.read path with
              | .ok bytes =>
                  let (stream, s) := s.newInput bytes
                  redirect fuel rest (s.direct n (.input stream))
              | .error .isDirectory => redirect fuel rest (s.direct n (.file path))
              | .error e => failed (shown "cannot open " e "No such file")
        | .inputOutput =>
            let content : Bytes := (s.tree.read path).toOption.getD []
            if name = bytesOf "/dev/null" then redirect fuel rest (s.direct n .nowhere)
            else
              match s.tree.writeFile path content with
              | .ok tree =>
                  let (stream, s) := { s with tree }.newInput content
                  redirect fuel rest (s.direct n (if n = 0 then .input stream else .file path))
              | .error e => failed (shown "cannot create " e "Directory nonexistent")
        | .output | .overwrite | .append =>
            if name = bytesOf "/dev/null" then redirect fuel rest (s.direct n .nowhere)
            else if name = bytesOf "/dev/stdout" then
              redirect fuel rest (s.direct n (s.descriptors.find 1))
            else if name = bytesOf "/dev/stderr" then
              redirect fuel rest (s.direct n (s.descriptors.find 2))
            else if kind = .output && s.has 'C' && s.files.isFile name then
              failed (bytesOf "cannot create " ++ name ++ bytesOf ": File exists")
            else
              let kept : Bytes :=
                if kind = .append then (s.tree.read path).toOption.getD [] else []
              match s.tree.writeFile path kept with
              | .ok tree => redirect fuel rest ({ s with tree }.direct n (.file path))
              | .error e => failed (shown "cannot create " e "Directory nonexistent")

/-- Runs a text as a script. -/
def runText : (fuel : Nat) → Bytes → State → Flow × State
  | 0, _, s => (.exit, s)
  | fuel + 1, text, s =>
      let chars := Utf8.decodeLossy text
      let script := parse chars
      let lineEnds := chars.count '\n'
      let before := if script.commands.isEmpty then { s with status := 0 } else s
      let (flow, after) := runAll fuel script.commands { before with lineEnds }
      match flow, script.misreading with
      | .next, some m =>
          let after := (after.atLine m.after).abandon (bytesOf m.fault.message)
          (.exit, { after with lineEnds := s.lineEnds })
      | _, _ => (flow, { after with lineEnds := s.lineEnds, line := s.line })

/-- Runs commands one after the other. -/
def runAll : (fuel : Nat) → List Command → State → Flow × State
  | 0, _, s => (.exit, s)
  | _, [], s => (.next, s)
  | fuel + 1, command :: rest, s =>
      match run fuel command s with
      | (.next, s) => if s.isOver then (s.flow, s) else runAll fuel rest s
      | ended => ended

/-- Ends a shell: what is to be done at its end is done. -/
def finish : (fuel : Nat) → Flow → State → Flow × State
  | 0, flow, s => (flow, s)
  | fuel + 1, flow, s =>
      match flow, s.trap? 0 with
      | .killed n, _ => (.killed n, s)
      | _, some (b :: action) =>
          let (flow, after) := runText fuel (b :: action)
            { s with
              traps := s.traps.filter fun (n, _) => n ≠ 0
              isOver := false, statusBefore := some s.status, loops := 0 }
          match flow with
          | .killed n => (.killed n, after)
          | .exit => (.exit, { after with status := after.status % 256 })
          | _ => (.exit, { after with status := s.status % 256 })
      | _, _ => (.exit, { s with status := s.status % 256 })

/-- Runs commands apart: what they do to the state of the shell is forgotten. -/
def runApart : (fuel : Nat) → List Command → State → Flow × State
  | 0, _, s => (.exit, s)
  | fuel + 1, commands, s =>
      let (flow, after) := runAll fuel commands s.apart
      let (flow, after) := finish fuel flow after
      (afterApart flow, s.afterApart after)

/-- Runs a command of which a failure is looked at. -/
def runTested : (fuel : Nat) → List Command → State → Flow × State
  | 0, _, s => (.exit, s)
  | fuel + 1, commands, s =>
      let (flow, after) := runAll fuel commands { s with isTested := true }
      (flow, { after with isTested := s.isTested })

/-- Runs what is to be done after signals that have come. -/
def runCaught : (fuel : Nat) → Flow → State → Flow × State
  | 0, flow, s => (flow, s)
  | fuel + 1, flow, s =>
      match if s.outerTraps.isNone then s.caught.mergeSort (· ≤ ·) else [] with
      | [] => (flow, s)
      | signal :: caught =>
          let (inner, after) := runText fuel ((s.trap? signal).getD [])
            { s with caught, statusBefore := some s.status, isTested := false }
          let after := { after with statusBefore := s.statusBefore, isTested := s.isTested }
          match inner with
          | .next => runCaught fuel flow { after with status := s.status }
          | ended => (ended, after)

/-- Runs a command. -/
def run : (fuel : Nat) → Command → State → Flow × State
  | 0, _, s => (.exit, s)
  | fuel + 1, command, s =>
      if s.has 'n' then (.next, s)
      else
        match command with
        | .simple after assignments words redirections =>
            let (flow, s) := runSimple fuel assignments words redirections
              { s.atLine after with substituted := 0 }
            let (flow, s) := runCaught fuel flow s
            checked (flow, s)
        | .both first second =>
            match runTested fuel [first] s with
            | (.next, s) => if s.status = 0 then run fuel second s else (.next, s)
            | ended => ended
        | .either first second =>
            match runTested fuel [first] s with
            | (.next, s) => if s.status = 0 then (.next, s) else run fuel second s
            | ended => ended
        | .negated inner =>
            match runTested fuel [inner] s with
            | (.next, s) => (.next, { s with status := if s.status = 0 then 1 else 0 })
            | ended => ended
        | .pipeline commands =>
            let (flow, s) := runPipeline fuel commands s
            checked (runCaught fuel flow s)
        | .background inner =>
            let (flow, after) := runApart fuel [inner] (s.direct 0 .nowhere)
            let number := processNumber + s.background.length + 1
            runCaught fuel flow { s.afterApart after with
              status := 0, background := (number, after.status) :: s.background }
        | .group body => runAll fuel body s
        | .subshell body =>
            let (flow, s) := runApart fuel body s
            checked (runCaught fuel flow s)
        | .choice branches otherwise => runChoice fuel branches otherwise s
        | .loop whileFails condition body =>
            let (flow, after) :=
              runLoop fuel whileFails condition body 0 { s with loops := s.loops + 1 }
            (flow, { after with loops := s.loops })
        | .forEach after name words body =>
            let (values, s) : List Bytes × State :=
              match words with
              | some words => expandAll fuel [] words (s.atLine after)
              | none => (s.arguments, s.atLine after)
            if s.isOver then (s.flow, s)
            else
              let (flow, after) :=
                runFor fuel name values body
                  { s with status := if values.isEmpty then 0 else s.status, loops := s.loops + 1 }
              (flow, { after with loops := s.loops })
        | .select after word branches =>
            let (value, s) := expandText fuel false word (s.atLine after)
            if s.isOver then (s.flow, s) else runSelect fuel value branches s
        | .define name body =>
            (.next, { s with
              functions := (name, ⟨s.lineEnds, body⟩) ::
                s.functions.filter fun (n, _) => n != name
              status := 0 })
        | .redirected after inner redirections =>
            let (made, inside) := redirect fuel redirections (s.atLine after)
            if !made then (inside.flow, { inside with descriptors := s.descriptors })
            else
              let (flow, after) := run fuel inner inside
              (flow, { after with descriptors := s.descriptors })

/-- Runs commands of which each reads what the one before it has written. -/
def runPipeline : (fuel : Nat) → List Command → State → Flow × State
  | 0, _, s => (.exit, s)
  | _, [], s => (.next, s)
  | fuel + 1, [command], s => runApart fuel [command] s
  | fuel + 1, command :: rest, s =>
      let (stream, inner) := s.newOutput
      match runApart fuel [command] (inner.direct 1 (.output stream)) with
      | (.killed signal, after) => (.killed signal, s.afterApart after)
      | (_, after) =>
          let (input, next) := (s.afterApart after).newInput (after.written stream)
          let (flow, last) := runPipeline fuel rest (next.direct 0 (.input input))
          (flow, s.afterApart last)

/-- Runs the first branch of which the condition succeeds. -/
def runChoice : (fuel : Nat) → List (List Command × List Command) → List Command →
    State → Flow × State
  | 0, _, _, s => (.exit, s)
  | fuel + 1, [], otherwise, s =>
      if otherwise.isEmpty then (.next, { s with status := 0 }) else runAll fuel otherwise s
  | fuel + 1, (condition, body) :: rest, otherwise, s =>
      match runTested fuel condition s with
      | (.next, s) =>
          if s.status = 0 then runAll fuel body s else runChoice fuel rest otherwise s
      | ended => ended

/-- Runs a loop; the status is that of the body's last round. -/
def runLoop : (fuel : Nat) → (whileFails : Bool) → List Command → List Command →
    (last : Nat) → State → Flow × State
  | 0, _, _, _, _, s => (.exit, s)
  | fuel + 1, whileFails, condition, body, last, s =>
      match runTested fuel condition s with
      | (.next, s) =>
          if (s.status = 0) = (whileFails = true) then (.next, { s with status := last })
          else
            let (flow, s) := runAll fuel body s
            match afterRound flow with
            | none => runLoop fuel whileFails condition body s.status s
            | some flow => (flow, s)
      | (flow, s) =>
          match afterRound flow with
          | none => runLoop fuel whileFails condition body last s
          | some flow => (flow, s)

/-- Runs a body for each of some values of a variable. -/
def runFor : (fuel : Nat) → String → List Bytes → List Command → State → Flow × State
  | 0, _, _, _, s => (.exit, s)
  | _, _, [], _, s => (.next, s)
  | fuel + 1, name, value :: rest, body, s =>
      let s := s.setVariable name value
      if s.isOver then (s.flow, s)
      else
        let (flow, s) := runAll fuel body s
        match afterRound flow with
        | none => runFor fuel name rest body s
        | some flow => (flow, s)

/-- Runs the first branch with a pattern that accepts a value. -/
def runSelect : (fuel : Nat) → Bytes → List (List Word × List Command) → State → Flow × State
  | 0, _, _, s => (.exit, s)
  | _, _, [], s => (.next, { s with status := 0 })
  | fuel + 1, value, (patterns, body) :: rest, s =>
      let (accepted, s) := acceptsAny fuel value patterns s
      if s.isOver then (s.flow, s)
      else if accepted then
        if body.isEmpty then (.next, { s with status := 0 }) else runAll fuel body s
      else runSelect fuel value rest s

/-- Whether one of some patterns accepts a value. -/
def acceptsAny : (fuel : Nat) → Bytes → List Word → State → Bool × State
  | 0, _, _, s => (false, s)
  | _, _, [], s => (false, s)
  | fuel + 1, value, pattern :: rest, s =>
      let (segments, s) := expand fuel (withHomes s false true pattern) s
      if PatternPart.accepts (s.pattern segments) value then (true, s)
      else acceptsAny fuel value rest s

/-- Runs a simple command. Assignments before a command hold while it runs, and for good
without a command or before one that can end the shell. The same goes for redirections, which
hold for good with the command that stands for the shell's own. -/
def runSimple : (fuel : Nat) → List (String × Word) → List Word → List Redirection → State →
    Flow × State
  | 0, _, _, _, s => (.exit, s)
  | fuel + 1, assignments, words, redirections, s =>
      let (fields, s) := expandAll fuel [] words s
      if s.isOver then (s.flow, s)
      else
        let name := match fields with | command :: _ => textOf command | [] => ""
        let isSpecial := Parser.specialCommands.contains name
        let (made, inside) := redirect fuel redirections s
        if !made then
          let after := { inside with descriptors := s.descriptors }
          (if isSpecial then .exit else after.flow, after)
        else
          let (values, after) := expandValues fuel assignments inside
          if after.isOver then (after.flow, { after with descriptors := s.descriptors })
          else
            let after := if s.has 'x' && (!values.isEmpty || !fields.isEmpty) then
                let (mark, outside) := expandMark fuel { after with descriptors := s.descriptors }
                { outside.write 2 (traceLine mark values fields) with
                  descriptors := inside.descriptors }
              else after
            match fields with
            | [] => (.next, { after with
                status := after.substituted, descriptors := s.descriptors })
            | command :: arguments =>
                let names := values.map (·.1)
                let (flow, last) := runNamed fuel false false command arguments
                  { after with exported := names ++ after.exported }
                let last := if isSpecial then last
                  else
                    { names.foldl (fun t n => t.restoreVariable n (s.lookUp? n)) last with
                      exported := last.exported.filter fun n =>
                        !names.contains n || s.exported.contains n }
                let last := if name = "exec" && arguments.isEmpty then last
                  else { last with descriptors := s.descriptors }
                (flow, last)

/-- Runs a function, a command of the shell or a program by its name. Functions do not count
for a command that is named as one; nor does then a failure end the shell. -/
def runNamed : (fuel : Nat) → (asCommand replaces : Bool) → (command : Bytes) → List Bytes →
    State → Flow × State
  | 0, _, _, _, _, s => (.exit, s)
  | fuel + 1, asCommand, replaces, command, arguments, s =>
      let name := textOf command
      let named (s : State) : State := { s with commandName := some command }
      let unnamed (after : State) : State := { after with commandName := s.commandName }
      let usual (_ : Unit) : Flow × State :=
        match if replaces then none else Builtin.find? name with
        | some command =>
            match command arguments (named s) with
            | .ok (flow, after) => (flow, unnamed after)
            | .error after =>
                (if Builtin.isSpecial name && !asCommand then .exit else .next, unnamed after)
        | none => runProgramNamed fuel replaces command arguments s
      match if asCommand then none else s.functions.find? fun (n, _) => n == name with
      | some (_, f) =>
          let (flow, after) := run fuel f.body
            { s with
              arguments, optionPlace := {}, lineEnds := f.lineEnds
              shadowed := some [], loops := 0 }
          let after := (after.shadowed.getD []).foldl
            (fun t (n, before) => t.restoreVariable n before) after
          (afterFunction flow, { after with
            arguments := s.arguments, optionPlace := s.optionPlace, lineEnds := s.lineEnds
            shadowed := s.shadowed, loops := s.loops })
      | none =>
          match name, arguments with
          | "eval", _ =>
              let (flow, after) := runText fuel (Format.spaced arguments) (named s)
              (flow, unnamed after)
          | ".", _ =>
              let fail (text : Bytes) : Flow × State :=
                (if asCommand then .next else .exit,
                  unnamed { (named s).complain text with status := 2 })
              match Builtin.takeOptions {} arguments with
              | .error e => fail e
              | .ok (_, []) => (.next, { s with status := 0 })
              | .ok (_, given :: _) =>
                  let file? : Option Bytes :=
                    if given.contains FilePath.slash then some given
                    else
                      (s.programPlaces.map fun d => d ++ FilePath.slash :: given).find?
                        s.files.isFile
                  match file? with
                  | none => fail (given ++ bytesOf ": not found")
                  | some file =>
                      match s.files.read file with
                      | .ok text =>
                          let (flow, after) :=
                            runText fuel text { s with commandName := some given }
                          (if flow = .returned then .next else flow, unnamed after)
                      | .error e =>
                          let reason := match e with | .notFound => "No such file" | e => e.reason
                          fail (bytesOf "cannot open " ++ file ++ bytesOf (": " ++ reason))
          | "command", _ =>
              match Builtin.takeOptions { flags := ['p', 'v', 'V'] } arguments with
              | .error e => (.next, unnamed { (named s).complain e with status := 2 })
              | .ok (_, []) => (.next, { s with status := 0 })
              | .ok (options, first :: rest) =>
                  let asked := options.map (·.1)
                  let said : Option Outcome :=
                    if asked.contains 'V' then some (Builtin.describe s 0 [first])
                    else if asked.contains 'v' then some (Builtin.find s first)
                    else none
                  match said with
                  | some (.ok ended) => ended
                  | some (.error after) => (.next, after)
                  | none => runNamed fuel true false first rest s
          | "exec", [] => (.next, { s with status := 0 })
          | "exec", first :: rest =>
              let (flow, after) := runNamed fuel true true first rest (named s)
              (if flow = .next then .exit else flow, unnamed after)
          | _, _ => usual ()

/-- Starts a program by its name and waits for its end, unless the shell becomes it. -/
def runProgramNamed : (fuel : Nat) → (replaces : Bool) → (command : Bytes) → List Bytes →
    State → Flow × State
  | 0, _, _, _, s => (.exit, s)
  | fuel + 1, replaces, command, arguments, s =>
      match s.findProgram command with
      | .program program _ =>
          let (flow, after) := startProgram fuel program command arguments s
          let s := { s.afterApart after with traps := if replaces then [] else s.traps }
          match flow with
          | .killed n =>
              if replaces then (.killed n, s)
              else
                let remark := match signalRemark? n with
                  | some text => bytesOf (text ++ "\n")
                  | none => []
                (.next, { s.write 2 remark with status := 128 + n })
          | _ => (.next, s)
      | .notFound .denied =>
          (.next, { s.complain (command ++ bytesOf ": Permission denied") with status := 126 })
      | .notFound _ =>
          let reason := if command.isEmpty then ": Permission denied" else ": not found"
          (.next, { s.complain (command ++ bytesOf reason) with status := 127 })

/-- Runs a program from its start to its end. -/
def startProgram : (fuel : Nat) → (program : String) → (command : Bytes) → List Bytes →
    State → Flow × State
  | 0, _, _, _, s => (.exit, s)
  | fuel + 1, program, command, arguments, s =>
      match program with
      | "sh" => runShell fuel command arguments s
      | "env" =>
          let (settings, rest) := splitSettings (arguments.filter fun a => a ≠ bytesOf "-i")
          let s := if arguments.contains (bytesOf "-i") then { s with exported := [] } else s
          let s := settings.foldl (fun s (n, v) =>
            { s.putVariable n v with exported := n :: s.exported }) s
          match rest with
          | [] =>
              let lines := (s.bindings.filter fun (n, _) => s.exported.contains n).flatMap
                fun (n, v) => bytesOf (n ++ "=") ++ v ++ [0x0A]
              (.exit, { s.write 1 lines with status := 0 })
          | first :: rest =>
              match s.findProgram first with
              | .program program _ => startProgram fuel program first rest s
              | .notFound e =>
                  let status := if e = .denied then 126 else 127
                  (.exit, { s.write 2 (bytesOf "env: '" ++ first ++
                    bytesOf ("': " ++ e.reason ++ "\n")) with status })
      | _ => (.exit, runProgram program arguments s)

/-- Runs a shell with its own arguments: a script after the option for one, or else a script
from a file or from the input. -/
def runShell : (fuel : Nat) → (command : Bytes) → List Bytes → State → Flow × State
  | 0, _, _, s => (.exit, s)
  | fuel + 1, command, arguments, s =>
      let start (text scriptName : Bytes) (options : List Char) (arguments : List Bytes) :
          Flow × State :=
        let (flow, after) := runText fuel text
          { s.fresh with
            scriptName, arguments, options := options.filter (State.optionLetters.contains ·) }
        finish fuel flow after
      let fail (text : Bytes) (status : Nat) : Flow × State :=
        (.exit, { s.write 2 (command ++ bytesOf ": 0: " ++ text ++ [0x0A]) with status })
      match Builtin.readOptions ['c'] (arguments.length + 1) { options := [] } arguments with
      | .error e => fail (bytesOf e) 2
      | .ok given =>
          let options := given.options
          let rest := given.arguments.getD []
          let s := s.write 1 (bytesOf given.shown)
          if options.contains 'c' then
            match rest with
            | [] => fail (bytesOf "-c requires an argument") 2
            | [text] => start text command options []
            | text :: scriptName :: arguments => start text scriptName options arguments
          else
            match if options.contains 's' then [] else rest with
            | [] => start (s.pending 0) command options rest
            | file :: arguments =>
                match s.files.read file with
                | .ok text => start text file options arguments
                | .error e =>
                    let reason := match e with | .notFound => "No such file" | e => e.reason
                    fail (bytesOf "cannot open " ++ file ++ bytesOf (": " ++ reason)) 2

end

end PullDiagnostics.Shell
