import PullDiagnostics.Text.Blank

/-!
# The command line

The server speaks over its standard streams, or over a connection that it accepts or makes.
Arguments are read from the left. The first that means nothing is told, even before the value
of an option just before it that it cannot have. Asking for help or for the version ends the
reading, so what follows does not matter.
-/

namespace PullDiagnostics

/-- An option that takes a value. -/
inductive CommandOption where
  | listen
  | connect
  | logLevel
  deriving DecidableEq, Inhabited

/-- How an option is written. -/
def CommandOption.flag : CommandOption → String
  | .listen => "--listen"
  | .connect => "--connect"
  | .logLevel => "--log-level"

/-- What the value of an option is called. -/
def CommandOption.valueName : CommandOption → String
  | .listen | .connect => "PORT"
  | .logLevel => "FILTER"

/-- An option with its value, as messages show it. -/
def CommandOption.usage (o : CommandOption) : String :=
  o.flag ++ " <" ++ o.valueName ++ ">"

/-- All options that take a value. -/
def CommandOption.all : List CommandOption := [.listen, .connect, .logLevel]

/-- What is wrong with a command line. -/
inductive UsageError where
  /-- An argument that means nothing. -/
  | unexpected (argument : String)
  /-- An option without its value. -/
  | missingValue (o : CommandOption)
  /-- A value that an option cannot have. -/
  | invalidValue (o : CommandOption) (value reason : String)
  /-- Two options that exclude each other, in the order given. -/
  | conflict (first second : CommandOption)
  /-- An option that is given twice. -/
  | repeated (o : CommandOption)
  /-- A value for something that takes none. -/
  | unexpectedValue (flag value : String)
  deriving DecidableEq, Inhabited

/-- What is said of a wrong command line. -/
def UsageError.message : UsageError → String
  | .unexpected argument => "unexpected argument '" ++ argument ++ "' found"
  | .missingValue o => "a value is required for '" ++ o.usage ++ "' but none was supplied"
  | .invalidValue o value reason =>
      "invalid value '" ++ value ++ "' for '" ++ o.usage ++ "': " ++ reason
  | .conflict first second =>
      "the argument '" ++ first.usage ++ "' cannot be used with '" ++ second.usage ++ "'"
  | .repeated o => "the argument '" ++ o.usage ++ "' cannot be used multiple times"
  | .unexpectedValue flag value =>
      "unexpected value '" ++ value ++ "' for '" ++ flag ++ "' found; no more were expected"

/-- Where the server speaks. -/
inductive Transport where
  | standardStreams
  | listen (port : Nat)
  | connect (port : Nat)
  deriving DecidableEq, Inhabited

/-- What a command line asks for. -/
inductive Command where
  | help
  | version
  | serve (transport : Transport) (logFilter : Option String)
  deriving DecidableEq, Inhabited

namespace CommandLine

/-- The name of the program and its version. -/
def versionText : String := "sift 0.1.0\n"

/-- The text that explains the command line. -/
def helpText : String :=
  "Language server serving cached diagnostics from an external analysis tool\n\n" ++
  "Usage: sift [OPTIONS]\n\nOptions:\n" ++
  "      --listen <PORT>       Accept connections on 127.0.0.1:PORT, " ++
  "one session per connection\n" ++
  "      --connect <PORT>      Connect to a client listening on localhost:PORT\n" ++
  "      --log-level <FILTER>  Log filter directive, overriding SIFT_LOG (e.g. `sift=debug`)\n" ++
  "  -h, --help                Print help\n" ++
  "  -V, --version             Print version\n"

/-- The largest port. -/
def maxPort : Int := 65535

/-- Reads the digits of an integer of 64 bits after those that have been read. The first
character that is no digit or leads out of the range decides what is wrong. -/
def readDigits (negative : Bool) : (soFar : Int) → List Char → Except String Int
  | n, [] => .ok n
  | n, c :: rest =>
      if !Text.isDigit c then .error "invalid digit found in string"
      else
        let digit : Int := Text.numeral [c]
        let next := if negative then 10 * n - digit else 10 * n + digit
        if 0x8000000000000000 ≤ next then .error "number too large to fit in target type"
        else if next < -0x8000000000000000 then .error "number too small to fit in target type"
        else readDigits negative next rest

/-- Reads an integer of 64 bits. A sign needs a digit after it. -/
def readInteger (text : List Char) : Except String Int :=
  match text with
  | [] => .error "cannot parse integer from empty string"
  | ['-'] | ['+'] => .error "invalid digit found in string"
  | '-' :: rest => readDigits true 0 rest
  | '+' :: rest => readDigits false 0 rest
  | _ => readDigits false 0 text

/-- Reads a port. -/
def readPort (o : CommandOption) (value : String) : Except UsageError Nat :=
  match readInteger value.toList with
  | .error reason => .error (.invalidValue o value reason)
  | .ok n =>
      if 0 ≤ n ∧ n ≤ maxPort then .ok n.toNat
      else .error (.invalidValue o value (toString n ++ " is not in 0..=65535"))

/-- Options read so far, in order, with their values. -/
abbrev Given := List (CommandOption × String)

/-- An option gets its value. -/
def give (given : Given) (o : CommandOption) (value : String) : Except UsageError Given :=
  if given.any (·.1 == o) then .error (.repeated o)
  else
    match o with
    | .logLevel => .ok (given ++ [(o, value)])
    | _ => (readPort o value).map fun _ => given ++ [(o, value)]

/-- What all options together ask for. Listening and connecting exclude each other. -/
def conclude (given : Given) : Except UsageError Command :=
  let port (o : CommandOption) : Option Nat :=
    (given.lookup o).bind fun value => (readPort o value).toOption
  match given.filter fun g => g.1 != .logLevel with
  | (first, _) :: (second, _) :: _ => .error (.conflict first second)
  | _ =>
      let transport :=
        match port .listen, port .connect with
        | some p, _ => Transport.listen p
        | none, some p => .connect p
        | none, none => .standardStreams
      .ok (.serve transport (given.lookup .logLevel))

/-- What one argument is. -/
inductive Argument where
  | help
  | version
  | option (o : CommandOption) (value : Option String)
  | endOfOptions
  | wrong (e : UsageError)

/-- Tells what an argument is. Options have long names; asking for help or the version has
short ones too, and what follows their letter does not matter. -/
def classify (argument : String) : Argument :=
  match argument.toList with
  | ['-', '-'] => .endOfOptions
  | '-' :: '-' :: _ =>
      let (name, value) :=
        match Text.splitOnce '=' argument.toList with
        | some (name, value) => (String.ofList name, some (String.ofList value))
        | none => (argument, none)
      match CommandOption.all.find? (·.flag == name), value with
      | some o, _ => .option o value
      | none, none =>
          if name = "--help" then .help else if name = "--version" then .version
          else .wrong (.unexpected name)
      | none, some v =>
          if name = "--help" || name = "--version" then .wrong (.unexpectedValue name v)
          else .wrong (.unexpected name)
  | '-' :: 'h' :: _ => .help
  | '-' :: 'V' :: _ => .version
  | '-' :: c :: _ => .wrong (.unexpected (String.ofList ['-', c]))
  | _ => .wrong (.unexpected argument)

/-- Whether an argument can be the value of the option before it. -/
def isValue (argument : String) : Bool :=
  match argument.toList with
  | '-' :: _ :: _ => false
  | _ => true

/-- An option that was named and has no value yet, or one that still has to be looked at. -/
abbrev Pending := Option (CommandOption × Option String)

/-- A pending option gets its value. -/
def resolve (given : Given) : Pending → Except UsageError Given
  | none => .ok given
  | some (o, none) => .error (.missingValue o)
  | some (o, some value) => give given o value

/-- Reads arguments. The value of a pending option is looked at only when the next option comes
or all arguments are read, so that an argument that means nothing is told before. `closed` says
that no options follow. -/
def read (closed : Bool) (pending : Pending) (given : Given) :
    List String → Except UsageError Command
  | [] =>
      match resolve given pending with
      | .error e => .error e
      | .ok given => conclude given
  | argument :: rest =>
      if closed then .error (.unexpected argument)
      else
        match pending, isValue argument with
        | some (o, none), true => read false (some (o, some argument)) given rest
        | _, _ =>
            match classify argument, resolve given pending with
            | .wrong e, _ => .error e
            | .endOfOptions, _ => read true pending given rest
            | _, .error e => .error e
            | .help, .ok _ => .ok .help
            | .version, .ok _ => .ok .version
            | .option o none, .ok given => read false (some (o, none)) given rest
            | .option o (some value), .ok given =>
                match give given o value with
                | .error e => .error e
                | .ok more => read false none more rest

/-- Reads a command line. -/
def parse (arguments : List String) : Except UsageError Command :=
  read false none [] arguments

end CommandLine

end PullDiagnostics
