import PullDiagnostics.Shell.FileView
import PullDiagnostics.Shell.Format
import PullDiagnostics.Text.Blank

/-!
# Conditions

What the command that tests conditions says of its arguments: comparisons of texts and
numbers, questions about files, and their combinations.
-/

namespace PullDiagnostics.Shell.Condition

/-- A word of the language of conditions as bytes. -/
def word (s : String) : Bytes := Utf8.encode s.toList

/-- Why a condition cannot be decided. -/
inductive Fault where
  | illegalNumber (operand : Bytes)
  | argumentExpected (operator : Bytes)
  | unexpectedOperator (argument : Bytes)
  | closingExpected
  deriving DecidableEq, Inhabited

/-- What is said of a condition that cannot be decided. -/
def Fault.message (f : Fault) : String :=
  let shown (bytes : Bytes) (text : String) : String :=
    if bytes.isEmpty then text else String.ofList (Utf8.decodeLossy bytes) ++ ": " ++ text
  match f with
  | .illegalNumber operand => "Illegal number: " ++ String.ofList (Utf8.decodeLossy operand)
  | .argumentExpected operator => shown operator "argument expected"
  | .unexpectedOperator argument => shown argument "unexpected operator"
  | .closingExpected => "closing paren expected"

/-- The number of 64 bits that an operand spells. -/
def number (operand : Bytes) : Except Fault Int :=
  let text := Text.trim (Utf8.decodeLossy operand)
  let (negative, digits) : Bool × List Char :=
    match text with
    | '-' :: rest => (true, rest)
    | '+' :: rest => (false, rest)
    | _ => (false, text)
  let n : Int := if negative then -Text.numeral digits else Text.numeral digits
  if digits.isEmpty || !digits.all Text.isDigit || n < -0x8000000000000000 ||
      0x8000000000000000 ≤ n then
    .error (.illegalNumber operand)
  else .ok n

/-- What an argument is where it stands. -/
inductive Token where
  | ending
  | operand
  | negation
  | conjunction
  | disjunction
  | opening
  | closing
  /-- An operator before one operand. -/
  | unary
  /-- An operator between two operands. -/
  | binary
  deriving DecidableEq

/-- The operator that an argument spells. -/
def operator? (argument : Bytes) : Option Token :=
  if argument = word "!" then some .negation
  else if argument = word "-a" then some .conjunction
  else if argument = word "-o" then some .disjunction
  else if argument = word "(" then some .opening
  else if argument = word ")" then some .closing
  else if (["=", "!=", "<", ">", "-eq", "-ne", "-lt", "-le", "-gt", "-ge", "-nt", "-ot",
      "-ef"].map word).contains argument then some .binary
  else
    match argument with
    | [dash, letter] =>
        if dash = Shell.ascii '-' &&
            ("rwxefdcbpugkstznhOGLS".toList.map Shell.ascii).contains letter then some .unary
        else none
    | _ => none

/-- What the first argument is. An operator that lacks an operand, or that stands before an
operator between operands, is an operand itself. -/
def token : List Bytes → Token
  | [] => .ending
  | argument :: rest =>
      match operator? argument with
      | none => .operand
      | some .unary =>
          match rest with
          | [] => .operand
          | [_] => .unary
          | next :: _ => if operator? next = some .binary then .operand else .unary
      | some .opening => if rest.isEmpty then .operand else .opening
      | some t => t

/-- The comparison of two operands. When files were changed is not known. -/
def compare (v : FileView) (operator a b : Bytes) : Except Fault Bool := do
  let numbers (holds : Int → Int → Bool) : Except Fault Bool := do
    let x ← number a
    let y ← number b
    pure (holds x y)
  if operator = word "=" then pure (a == b)
  else if operator = word "!=" then pure (a != b)
  else if operator = word "<" then pure (Bytes.before a b)
  else if operator = word ">" then pure (Bytes.before b a)
  else if operator = word "-eq" then numbers fun x y => x = y
  else if operator = word "-ne" then numbers fun x y => x ≠ y
  else if operator = word "-lt" then numbers fun x y => x < y
  else if operator = word "-le" then numbers fun x y => x ≤ y
  else if operator = word "-gt" then numbers fun x y => y < x
  else if operator = word "-ge" then numbers fun x y => y ≤ x
  else pure (operator = word "-ef" && v.areSame a b)

/-- The question about one operand. Files that are no directories cannot be run. -/
def ask (v : FileView) (operator operand : Bytes) : Except Fault Bool :=
  if operator = word "-n" then .ok !operand.isEmpty
  else if operator = word "-z" then .ok operand.isEmpty
  else if operator = word "-t" then (number operand).map fun _ => false
  else if operator = word "-f" then .ok (v.isFile operand)
  else if operator = word "-d" || operator = word "-x" then .ok (v.isDirectory operand)
  else if operator = word "-c" then .ok (v.isDevice operand)
  else if operator = word "-s" then
    .ok (match v.read operand with
      | .ok content => !content.isEmpty
      | .error _ => v.isDirectory operand)
  else if operator = word "-h" || operator = word "-L" then
    .ok (match v.tree.findLink (v.resolve operand) with | .ok (.link _) => true | _ => false)
  else if (["-e", "-r", "-w", "-O", "-G"].map word).contains operator then
    .ok (v.find operand).isOk
  else .ok false

/-! Readers take the arguments from the first one that is not read yet, together with what it
is, and give back the arguments from the last one that they have read. -/

mutual

/-- A condition with alternatives. -/
def readEither (v : FileView) :
    (fuel : Nat) → Token → List Bytes → Except Fault (Bool × List Bytes)
  | 0, _, _ => .error .closingExpected
  | fuel + 1, first, arguments => do
      let (holds, last) ← readBoth v fuel first arguments
      if token last.tail = .disjunction then
        let left := last.drop 2
        let (other, last) ← readEither v fuel (token left) left
        pure (holds || other, last)
      else pure (holds, last)

/-- A condition of several that all have to hold. -/
def readBoth (v : FileView) :
    (fuel : Nat) → Token → List Bytes → Except Fault (Bool × List Bytes)
  | 0, _, _ => .error .closingExpected
  | fuel + 1, first, arguments => do
      let (holds, last) ← readNegation v fuel first arguments
      if token last.tail = .conjunction then
        let left := last.drop 2
        let (other, last) ← readBoth v fuel (token left) left
        pure (holds && other, last)
      else pure (holds, last)

/-- A condition that may be negated. -/
def readNegation (v : FileView) :
    (fuel : Nat) → Token → List Bytes → Except Fault (Bool × List Bytes)
  | 0, _, _ => .error .closingExpected
  | fuel + 1, first, arguments => do
      if first = .negation then
        let next := token arguments.tail
        let left := if next = .ending then arguments else arguments.tail
        let (holds, last) ← readNegation v fuel next left
        pure (!holds, last)
      else readOne v fuel first arguments

/-- One condition. -/
def readOne (v : FileView) :
    (fuel : Nat) → Token → List Bytes → Except Fault (Bool × List Bytes)
  | 0, _, _ => .error .closingExpected
  | fuel + 1, first, arguments => do
      match first, arguments with
      | .ending, _ | _, [] => pure (false, arguments)
      | .opening, _ :: inner =>
          let next := token inner
          if next = .closing then pure (false, inner)
          else
            let (holds, last) ← readEither v fuel next inner
            if token last.tail = .closing then pure (holds, last.tail)
            else .error .closingExpected
      | .unary, operator :: rest =>
          match rest with
          | [] => .error (.argumentExpected operator)
          | operand :: _ =>
              let holds ← ask v operator operand
              pure (holds, rest)
      | _, a :: rest =>
          if token rest = .binary then
            match rest with
            | operator :: b :: more =>
                let holds ← compare v operator a b
                pure (holds, b :: more)
            | operator :: [] => .error (.argumentExpected operator)
            | [] => pure (!a.isEmpty, arguments)
          else pure (!a.isEmpty, arguments)

end

/-- Whether the condition that arguments make holds, of which the first one is something. -/
def decideFrom (v : FileView) (first : Token) (arguments : List Bytes) : Except Fault Bool := do
  let (result, last) ← readEither v (4 * arguments.length + 4) first arguments
  match last with
  | argument :: _ :: _ => .error (.unexpectedOperator argument)
  | _ => pure result

/-- Whether the condition that arguments make holds; without any it does not. Three or four
of them are looked at from outside first: a comparison, parentheses around the rest, or a
negation of the rest. -/
def holds (v : FileView) : List Bytes → Except Fault Bool
  | [] => .ok false
  | first :: rest =>
      let arguments := first :: rest
      let isShort := arguments.length = 3 || arguments.length = 4
      if arguments.length = 3 && rest.head?.bind operator? = some .binary then
        decideFrom v .operand arguments
      else if isShort && first = word "(" && rest.getLast? = some (word ")") then
        decideFrom v (token rest.dropLast) rest.dropLast
      else if isShort && first = word "!" then
        (holds v rest).map (!·)
      else decideFrom v (token arguments) arguments

end PullDiagnostics.Shell.Condition
