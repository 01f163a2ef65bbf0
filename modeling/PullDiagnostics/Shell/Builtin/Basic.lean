import PullDiagnostics.Shell.Condition
import PullDiagnostics.Shell.State

/-!
# What commands of the shell lead to

A command of the shell changes its state and runs no other commands. It gives how the commands
after it go on and the state after it. A command that cannot do what it is told says so and
gives the state after that as an error, since a few commands end the shell then.
-/

namespace PullDiagnostics.Shell

/-- What a command of the shell leads to. -/
abbrev Outcome := Except State (Flow × State)

/-- A text between quotation marks from a place on: a stretch without single ones between
single ones, then a stretch of single ones between double ones. -/
def quotedFrom : (fuel : Nat) → Bytes → Bytes
  | 0, _ => []
  | fuel + 1, text =>
      let plain := text.takeWhile (· ≠ 0x27)
      let marks := (text.drop plain.length).takeWhile (· = 0x27)
      let after := text.drop (plain.length + marks.length)
      0x27 :: plain ++ [0x27] ++
        (if marks.isEmpty then [] else 0x22 :: marks ++ [0x22]) ++
        (if after.isEmpty then [] else quotedFrom fuel after)

/-- A text between quotation marks, as the shell reads it back. -/
def quoted (text : Bytes) : Bytes :=
  quotedFrom (text.length + 1) text

namespace Builtin

/-- A command that has ended with a number. -/
def done (s : State) (status : Nat) : Outcome :=
  .ok (.next, { s with status })

/-- A command that cannot do what it is told. -/
def fail (s : State) (text : Bytes) : Outcome :=
  .error { s.complain text with status := 2 }

/-- A command that was given something else than a number. -/
def illegalNumber (s : State) (argument : Bytes) : Outcome :=
  fail s (bytesOf "Illegal number: " ++ argument)

/-- A command that was given a job, of which there are none. -/
def noJob (s : State) (argument : Bytes) : Outcome :=
  fail s (bytesOf "No such job: " ++ argument)

/-- The number that an argument spells, if it is not negative. -/
def number? (argument : Bytes) : Option Nat :=
  match Condition.number argument with
  | .ok n => if 0 ≤ n && n < 0x80000000 then some n.toNat else none
  | .error _ => none

/-- Output of a command, unless there is nowhere to write to. -/
def print (s : State) (name : String) (output : Bytes) (status : Nat) : Outcome :=
  if s.isWritable 1 || output.isEmpty then done (s.write 1 output) status
  else done (s.complain (bytesOf (name ++ ": I/O error"))) 1

/-! ### Options -/

/-- An option that was given: its letter, and its value if it takes one. -/
abbrev GivenOption := Char × Bytes

/-- The letters that a command knows: those that stand alone, and those that take a value. -/
structure KnownOptions where
  flags : List Char := []
  valued : List Char := []

/-- The options of some letters, and the arguments that are left; the last letter may take the
next argument. -/
def takeLetters (known : KnownOptions) : (letters : Bytes) → (rest : List Bytes) →
    Except Bytes (List GivenOption × List Bytes)
  | [], rest => .ok ([], rest)
  | b :: letters, rest =>
      let letter := asciiChar b
      if known.valued.contains letter then
        match letters, rest with
        | [], [] => .error (bytesOf "No arg for -" ++ b :: bytesOf " option")
        | [], value :: rest => .ok ([(letter, value)], rest)
        | value, rest => .ok ([(letter, value)], rest)
      else if known.flags.contains letter then
        (takeLetters known letters rest).map fun (more, left) => ((letter, []) :: more, left)
      else .error (bytesOf "Illegal option -" ++ [b])

/-- The options at the start of arguments, and the arguments after them. -/
def takeOptionsFrom (known : KnownOptions) : (fuel : Nat) → List Bytes →
    Except Bytes (List GivenOption × List Bytes)
  | 0, arguments => .ok ([], arguments)
  | _, [] => .ok ([], [])
  | fuel + 1, argument :: rest =>
      match argument with
      | [0x2D, 0x2D] => .ok ([], rest)
      | 0x2D :: b :: letters =>
          match takeLetters known (b :: letters) rest with
          | .error e => .error e
          | .ok (options, left) =>
              (takeOptionsFrom known fuel left).map fun (more, left) => (options ++ more, left)
      | _ => .ok ([], argument :: rest)

/-- The options at the start of arguments, and the arguments after them; or why they cannot be
read. -/
def takeOptions (known : KnownOptions) (arguments : List Bytes) :
    Except Bytes (List GivenOption × List Bytes) :=
  takeOptionsFrom known arguments.length arguments

/-- A command that takes options. -/
def withOptions (known : KnownOptions)
    (command : List GivenOption → List Bytes → State → Outcome) (arguments : List Bytes)
    (s : State) : Outcome :=
  match takeOptions known arguments with
  | .error e => fail s e
  | .ok (options, arguments) => command options arguments s

end Builtin

end PullDiagnostics.Shell
