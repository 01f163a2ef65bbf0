import PullDiagnostics.Shell.Builtin.Basic
import PullDiagnostics.Shell.Parser

/-!
# Variables, options and arguments

The commands that declare and forget variables, those that give names another meaning, and
the ones that set the options and arguments of the shell.
-/

namespace PullDiagnostics.Shell.Builtin

/-! ### Variables -/

/-- The name and the value of an argument that is written like an assignment. -/
def splitAssignment (argument : Bytes) : String × Option Bytes :=
  match Text.splitOnce '=' (Utf8.decodeLossy argument) with
  | some (name, value) => (String.ofList name, some (Utf8.encode value))
  | none => (textOf argument, none)

/-- The commands that declare variables, one after the other. -/
def declare (mark : String → State → State) (s : State) : List Bytes → Outcome
  | [] => done s 0
  | argument :: rest =>
      let (name, value) := splitAssignment argument
      if !Parser.isName name.toList then fail s (bytesOf (name ++ ": bad variable name"))
      else
        let s := mark name s
        match value with
        | none => declare mark s rest
        | some value =>
            match s.setVariable? name value with
            | some s => declare mark s rest
            | none => fail s (bytesOf (name ++ ": is read only"))

/-- Variables as the command that declares them would be written, in the order of their
names. -/
def shownVariables (command : String) (names : List String) (s : State) : Bytes :=
  let sorted := names.eraseDups.mergeSort fun a b => !Bytes.before (bytesOf b) (bytesOf a)
  sorted.flatMap fun name =>
    bytesOf (command ++ " " ++ name) ++
      (match s.lookUp? name with
        | some value => 0x3D :: quoted value
        | none => []) ++ [0x0A]

/-- A variable becomes one that programs see. -/
def makeExported (name : String) (s : State) : State :=
  { s with exported := name :: s.exported }

/-- The command that makes variables ones that programs see. -/
def exportAll : List Bytes → State → Outcome :=
  withOptions { flags := ['p'] } fun options arguments s =>
    if arguments.isEmpty || !options.isEmpty then
      print s "export" (shownVariables "export" s.exported s) 0
    else declare makeExported s arguments

/-- The command that makes variables ones that cannot be set any more, after their values are
set. -/
def protectAll : List Bytes → State → Outcome :=
  withOptions { flags := ['p'] } fun options arguments s =>
    if arguments.isEmpty || !options.isEmpty then
      print s "readonly" (shownVariables "readonly" s.readOnly s) 0
    else
      (declare (fun _ s => s) s arguments).map fun (flow, s) =>
        (flow, { s with readOnly := arguments.map (fun a => (splitAssignment a).1) ++ s.readOnly })

/-- A variable becomes one that a function has for itself. -/
def shadow (name : String) (s : State) : State :=
  let saved := s.shadowed.getD []
  if saved.any fun (n, _) => n = name then s
  else { s with shadowed := some ((name, s.lookUp? name) :: saved) }

/-- The command that makes variables ones that a function has for itself. -/
def keepLocal (arguments : List Bytes) (s : State) : Outcome :=
  if s.shadowed.isNone then fail s (bytesOf "not in a function")
  else declare shadow s (arguments.filter (· ≠ [0x2D]))

/-- Functions are forgotten, or variables one after the other. -/
def forget (functions : Bool) (s : State) : List Bytes → Outcome
  | [] => done s 0
  | argument :: rest =>
      let name := textOf argument
      if functions then
        forget functions { s with functions := s.functions.filter fun (n, _) => n != name } rest
      else if !Parser.isName name.toList then fail s (argument ++ bytesOf ": bad variable name")
      else if s.readOnly.contains name then fail s (argument ++ bytesOf ": is read only")
      else
        let s := s.restoreVariable name none
        forget functions { s with exported := s.exported.filter (· ≠ name) } rest

/-- The command that forgets variables or functions, as its last option says. -/
def unset : List Bytes → State → Outcome :=
  withOptions { flags := ['v', 'f'] } fun options arguments s =>
    forget (options.getLast?.any (·.1 = 'f')) s arguments

/-! ### Other names -/

/-- The place of a name among other names, which are listed in the order of their places. -/
def aliasPlace (name : String) : Nat :=
  let bytes := bytesOf name
  (((bytes.head?.map (·.toNat)).getD 0 <<< 4) + bytes.foldl (fun n b => n + b.toNat) 0) % 39

/-- A name and what it stands for, in a line. -/
def shownAlias (given : String × Bytes) : Bytes :=
  bytesOf (given.1 ++ "=") ++ quoted given.2 ++ [0x0A]

/-- Names are given a meaning, or the one that they have is shown, one after the other. -/
def defineAliases (status : Nat) (s : State) : List Bytes → Outcome
  | [] => done s status
  | argument :: rest =>
      match splitAssignment argument with
      | (name, some value) =>
          let given := (name, value)
          let aliases :=
            if s.aliases.any fun (n, _) => n == name then
              s.aliases.map fun other => if other.1 = name then given else other
            else s.aliases ++ [given]
          defineAliases status { s with aliases } rest
      | (name, none) =>
          match s.aliases.find? fun (n, _) => n == name with
          | some found => defineAliases status (s.write 1 (shownAlias found)) rest
          | none =>
              defineAliases 1 (s.write 2 (bytesOf ("alias: " ++ name ++ " not found\n"))) rest

/-- The command that lets names stand for something else. Commands are read as they stand all
the same. -/
def defineAll (arguments : List Bytes) (s : State) : Outcome :=
  if arguments.isEmpty then
    let sorted := s.aliases.mergeSort fun a b => aliasPlace a.1 ≤ aliasPlace b.1
    print s "alias" (sorted.flatMap shownAlias) 0
  else defineAliases 0 s arguments

/-- Names lose their meaning one after the other. -/
def dropAliases (status : Nat) (s : State) : List Bytes → Outcome
  | [] => done s status
  | argument :: rest =>
      let name := textOf argument
      if s.aliases.any fun (n, _) => n == name then
        dropAliases status { s with aliases := s.aliases.filter fun (n, _) => n != name } rest
      else dropAliases 1 (s.write 2 (bytesOf ("unalias: " ++ name ++ " not found\n"))) rest

/-- The command that takes names their meaning. -/
def dropAll : List Bytes → State → Outcome :=
  withOptions { flags := ['a'] } fun options arguments s =>
    if options.isEmpty then dropAliases 0 s arguments else done { s with aliases := [] } 0

/-! ### Options and arguments -/

/-- The options by their long names, with their letters. The letters of the last two cannot be
given. -/
def optionNames : List (String × Char) :=
  [("errexit", 'e'), ("noglob", 'f'), ("ignoreeof", 'I'), ("interactive", 'i'), ("monitor", 'm'),
    ("noexec", 'n'), ("stdin", 's'), ("xtrace", 'x'), ("verbose", 'v'), ("vi", 'V'),
    ("emacs", 'E'), ("noclobber", 'C'), ("allexport", 'a'), ("notify", 'b'), ("nounset", 'u'),
    ("privileged", 'p'), ("nolog", 'L'), ("debug", 'D')]

/-- The letters of options after one of them is set or not. -/
def withOption (options : List Char) (isSet : Bool) (letter : Char) : List Char :=
  let others := options.filter (· ≠ letter)
  if isSet then letter :: others else others

/-- All options and whether they are set: for a reader, or as commands that set them. -/
def shownOptions (asCommands : Bool) (options : List Char) : String :=
  let lines := optionNames.map fun (name, letter) =>
    let isSet := options.contains letter
    if asCommands then "set " ++ (if isSet then "-o " else "+o ") ++ name ++ "\n"
    else
      name ++ String.ofList (List.replicate (16 - name.length) ' ') ++
        (if isSet then "on\n" else "off\n")
  String.join (if asCommands then lines else "Current option settings\n" :: lines)

/-- What arguments say of options: the options after them, what is shown of them, and the
arguments that are left, if there are said to be some. -/
structure GivenOptions where
  options : List Char
  shown : String := ""
  arguments : Option (List Bytes) := none

/-- Sets options from letters, of which one takes the next argument as a name; gives also what
is left of the arguments, or else says what is no option. The letters of a shell's own
arguments may be known too. -/
def setLetters (known : List Char) (isSet : Bool) : GivenOptions → (letters : List Char) →
    (rest : List Bytes) → Except String (GivenOptions × List Bytes)
  | given, [], rest => .ok (given, rest)
  | given, 'o' :: letters, rest =>
      match rest with
      | [] =>
          setLetters known isSet
            { given with shown := given.shown ++ shownOptions (!isSet) given.options } letters []
      | name :: rest =>
          match optionNames.find? fun (n, _) => n = textOf name with
          | some (_, letter) =>
              setLetters known isSet
                { given with options := withOption given.options isSet letter } letters rest
          | none => .error ("Illegal option -o " ++ textOf name)
  | given, letter :: letters, rest =>
      if (State.optionLetters ++ known).contains letter then
        setLetters known isSet
          { given with options := withOption given.options isSet letter } letters rest
      else .error ("Illegal option -" ++ String.singleton letter)

/-- Reads the options at the start of arguments. Arguments are left if two dashes or an
argument say that there are some. -/
def readOptions (known : List Char) : (fuel : Nat) → GivenOptions → List Bytes →
    Except String GivenOptions
  | 0, given, _ => .ok given
  | _, given, [] => .ok given
  | fuel + 1, given, first :: rest =>
      let leave (arguments : List Bytes) : GivenOptions :=
        { given with arguments := some arguments }
      match first with
      | [0x2D, 0x2D] => .ok (leave rest)
      | [0x2D] =>
          let given := { given with options := given.options.filter fun c => c ≠ 'x' && c ≠ 'v' }
          .ok { given with arguments := if rest.isEmpty then none else some rest }
      | sign :: letters =>
          if sign = 0x2D || sign = 0x2B then
            match setLetters known (sign = 0x2D) given (Utf8.decodeLossy letters) rest with
            | .ok (given, rest) => readOptions known fuel given rest
            | .error e => .error e
          else .ok (leave (first :: rest))
      | [] => .ok (leave (first :: rest))

/-- The arguments of the shell are others. -/
def withArguments (s : State) (arguments : List Bytes) : State :=
  { s with arguments, optionPlace := {} }

/-- The command that sets options and arguments. -/
def set (arguments : List Bytes) (s : State) : Outcome :=
  match readOptions [] (arguments.length + 1) { options := s.options } arguments with
  | .error e => fail s (bytesOf e)
  | .ok given =>
      let s := { s with options := given.options }
      print (match given.arguments with
        | some arguments => withArguments s arguments
        | none => s) "set" (bytesOf given.shown) 0

/-- The command that drops arguments. -/
def shift (arguments : List Bytes) (s : State) : Outcome :=
  let drop (n : Nat) : Outcome :=
    if s.arguments.length < n then fail s (bytesOf "can't shift that many")
    else done (withArguments s (s.arguments.drop n)) 0
  match arguments with
  | [] => drop 1
  | argument :: _ =>
      match number? argument with
      | some n => drop n
      | none => illegalNumber s argument

end PullDiagnostics.Shell.Builtin
