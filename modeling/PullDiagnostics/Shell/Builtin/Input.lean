import PullDiagnostics.Shell.Builtin.Basic
import PullDiagnostics.Shell.Parser

/-!
# Reading input and options

The command that reads a line into variables, and the one that reads the options among
arguments one after the other.
-/

namespace PullDiagnostics.Shell.Builtin

/-! ### Lines -/

/-- Reads a line with its backslashes undone: the bytes, each with whether it was escaped,
what is left, and whether the line had an end. -/
def takeLine (raw : Bool) : (fuel : Nat) → Bytes → List (Bool × UInt8) × Bytes × Bool
  | 0, bytes => ([], bytes, false)
  | _, [] => ([], [], false)
  | fuel + 1, b :: rest =>
      if b = 0x0A then ([], rest, true)
      else if !raw && b = 0x5C then
        match rest with
        | [] => ([], [], false)
        | c :: more =>
            let (line, left, ended) := takeLine raw fuel more
            (if c = 0x0A then line else (true, c) :: line, left, ended)
      else
        let (line, left, ended) := takeLine raw fuel rest
        ((false, b) :: line, left, ended)

/-- Whether a byte of a line separates fields. -/
def isSeparator (separators : Bytes) (b : Bool × UInt8) : Bool :=
  !b.1 && separators.contains b.2

/-- Whether a byte of a line is a blank that separates fields. -/
def isBlankSeparator (separators : Bytes) (b : Bool × UInt8) : Bool :=
  isSeparator separators b && (b.2 = 0x20 || b.2 = 0x09 || b.2 = 0x0A)

/-- The values of variables that a line is read into. The last one takes all that is left,
but not the separator at the end of a last field. -/
def distribute (separators : Bytes) : (names : List String) → List (Bool × UInt8) →
    List (String × Bytes)
  | [], _ => []
  | [name], line =>
      let start := line.dropWhile (isBlankSeparator separators)
      let kept := (start.reverse.dropWhile (isBlankSeparator separators)).reverse
      let one := match kept.getLast? with
        | some b =>
            if isSeparator separators b && !(kept.dropLast.any (isSeparator separators)) then
              kept.dropLast
            else kept
        | none => kept
      [(name, one.map (·.2))]
  | name :: rest, line =>
      let start := line.dropWhile (isBlankSeparator separators)
      let field := start.takeWhile fun b => !isSeparator separators b
      let after := (start.drop field.length).dropWhile (isBlankSeparator separators)
      let left := match after with
        | b :: more =>
            if isSeparator separators b && !isBlankSeparator separators b &&
                (start.drop field.length).head?.any (fun c => isSeparator separators c) then more
            else after
        | [] => []
      (name, field.map (·.2)) :: distribute separators rest left

/-- What is said of a variable that cannot be set. -/
def cannotSet (name : String) : Bytes :=
  bytesOf (name ++
    if Parser.isName name.toList then ": is read only" else ": bad variable name")

/-- Variables are set one after the other, up to the first that cannot be. -/
def setAll (s : State) : List (String × Bytes) → Except String State
  | [] => .ok s
  | (name, value) :: rest =>
      if !Parser.isName name.toList then .error name
      else
        match s.setVariable? name value with
        | some s => setAll s rest
        | none => .error name

/-- The command that reads a line into variables. -/
def readLine : List Bytes → State → Outcome :=
  withOptions { flags := ['r'], valued := ['p'] } fun options arguments s =>
    if arguments.isEmpty then fail s (bytesOf "arg count")
    else
      let raw := options.any (·.1 = 'r')
      let pending := s.pending 0
      let (line, left, ended) := takeLine raw (pending.length + 1) pending
      let s := s.setPending 0 left
      match setAll s (distribute s.separators (arguments.map textOf) line) with
      | .ok s => done s (if ended then 0 else 1)
      | .error name => fail s (cannotSet name)

/-! ### Options -/

/-- What is found at a place among arguments: the letter of an option, its value if it takes
one that is there, and the place after it. -/
structure FoundOption where
  letter : UInt8
  /-- Whether the letter is known, and whether it takes a value. -/
  known : Option Bool
  value : Option Bytes := none
  after : OptionPlace

/-- Whether a letter is known, and whether it takes a value, which a colon after it says. -/
def knownLetter? (letter : UInt8) : (letters : Bytes) → Option Bool
  | [] => none
  | b :: rest =>
      let takes := rest.head? = some 0x3A
      if b = letter then some takes
      else if takes then knownLetter? letter rest.tail
      else knownLetter? letter rest
termination_by letters => letters.length
decreasing_by all_goals simp; try omega

/-- The letters that are left to be read at a place, and the number of the argument after
them; or the number of the argument at which the options end. -/
def lettersAt (arguments : List Bytes) (place : OptionPlace) : Except Nat (Bytes × Nat) :=
  let begun : Bytes := match place.read with
    | some n => ((arguments[place.next - 2]?).getD []).drop n
    | none => []
  if place.next ≥ 2 && !begun.isEmpty then .ok (begun, place.next)
  else
    match arguments[place.next - 1]? with
    | some [0x2D, 0x2D] => .error (place.next + 1)
    | some (0x2D :: b :: letters) => .ok (b :: letters, place.next + 1)
    | _ => .error place.next

/-- Finds the option at a place, or the number of the argument at which options end. -/
def findOption (letters : Bytes) (arguments : List Bytes) (place : OptionPlace) :
    Except Nat FoundOption :=
  match lettersAt arguments place with
  | .error next => .error next
  | .ok ([], next) => .error next
  | .ok (letter :: left, next) =>
      let length := ((arguments[next - 2]?).getD []).length
      match knownLetter? letter letters with
      | some true =>
          if !left.isEmpty then .ok ⟨letter, some true, some left, { next }⟩
          else
            match arguments[next - 1]? with
            | some value => .ok ⟨letter, some true, some value, { next := next + 1 }⟩
            | none => .ok ⟨letter, some true, none, { next, read := some length }⟩
      | known => .ok ⟨letter, known, none, { next, read := some (length - left.length) }⟩

/-- The variable that tells the value of an option. -/
def valueVariable : String := "OPTARG"

/-- The state after options were read up to a place, with what a variable tells of the last
one. -/
def tellOption (name : String) (told : UInt8) (place : OptionPlace) (s : State) : State :=
  { (s.putVariable State.optionVariable (decimal place.next)).putVariable name [told] with
    optionPlace := place }

/-- The command that reads the next option. Letters that begin with a colon ask for what is
wrong to be told in variables. -/
def nextOption (letters : Bytes) (name : String) (arguments : List Bytes) (s : State) :
    Outcome :=
  let quiet := letters.head? = some 0x3A
  let place : OptionPlace :=
    if arguments.length + 1 < s.optionPlace.next then {} else s.optionPlace
  match findOption (if quiet then letters.tail else letters) arguments place with
  | .error next => done (tellOption name 0x3F { next } s) 1
  | .ok found =>
      let wrong (told : UInt8) (text : Bytes) : Outcome :=
        if quiet then
          done (tellOption name told found.after (s.putVariable valueVariable [found.letter])) 0
        else
          done (tellOption name 0x3F found.after
            ((s.write 2 (text ++ [0x0A])).restoreVariable valueVariable none)) 0
      match found.known, found.value with
      | none, _ => wrong 0x3F (bytesOf "Illegal option -" ++ [found.letter])
      | some true, none => wrong 0x3A (bytesOf "No arg for -" ++ found.letter :: bytesOf " option")
      | some _, value =>
          done (tellOption name found.letter found.after
            (s.putVariable valueVariable (value.getD []))) 0

/-- The command that reads options one after the other, from arguments of its own or from
those of the shell. -/
def readOption (arguments : List Bytes) (s : State) : Outcome :=
  match arguments with
  | letters :: target :: own =>
      let name := textOf target
      if !Parser.isName name.toList then fail s (cannotSet name)
      else nextOption letters name (if own.isEmpty then s.arguments else own) s
  | _ => fail s (bytesOf "Usage: getopts optstring var [arg...]")

end PullDiagnostics.Shell.Builtin
