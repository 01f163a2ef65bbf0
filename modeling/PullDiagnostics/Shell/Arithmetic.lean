import PullDiagnostics.Shell.Format

/-!
# Shell arithmetic

Expressions over signed numbers of sixty-four bits, with the operators of the language C and
variables by name. Assignments come back together with the value. An operand that decides
nothing is read, but neither its assignments nor its faults count.
-/

namespace PullDiagnostics.Shell.Arithmetic

/-- A piece of an expression. -/
inductive Token where
  | number (n : Int)
  | name (s : String)
  | operator (s : String)
  deriving DecidableEq, Inhabited

/-- What is wrong with an expression. -/
inductive Fault where
  | expecting (what : String)
  | divisionByZero
  /-- The value of a variable is no number. -/
  | illegalNumber (value : Bytes)
  deriving Inhabited

/-- What the shell says of a fault in an expression. -/
def Fault.message (expression : List Char) : Fault → String
  | .expecting what =>
      "arithmetic expression: expecting " ++ what ++ ": \"" ++ String.ofList expression ++ "\""
  | .divisionByZero =>
      "arithmetic expression: division by zero: \"" ++ String.ofList expression ++ "\""
  | .illegalNumber value => "Illegal number: " ++ String.ofList (Utf8.decodeLossy value)

/-- The operators, longer ones before those that they start with. -/
def operators : List String :=
  ["<<=", ">>=", "<<", ">>", "<=", ">=", "==", "!=", "&&", "||", "+=", "-=", "*=", "/=", "%=",
    "&=", "|=", "^=", "+", "-", "*", "/", "%", "<", ">", "=", "!", "~", "&", "|", "^", "?", ":",
    "(", ")"]

/-- The number that digits start with, and how many of them belong to it. -/
def readConstant (digits : List Char) : Int × Nat :=
  match Numeral.readInteger? (Utf8.encode digits) with
  | some (n, left) => (min n 0x7FFFFFFFFFFFFFFF, digits.length - left.length)
  | none => (0, 1)

/-- The pieces of an expression. A character that is no part of one stands for itself. -/
def scan : (fuel : Nat) → List Char → List Token
  | 0, _ => []
  | _, [] => []
  | fuel + 1, c :: rest =>
      let text := c :: rest
      if c = ' ' || c = '\t' || c = '\n' then scan fuel rest
      else if c.isDigit then
        let (n, taken) := readConstant (text.takeWhile Char.isAlphanum)
        .number n :: scan fuel (text.drop taken)
      else if c.isAlpha || c = '_' then
        let name := text.takeWhile fun d => d.isAlphanum || d = '_'
        .name (String.ofList name) :: scan fuel (text.drop name.length)
      else
        match operators.find? fun o => o.toList.isPrefixOf text with
        | some o => .operator o :: scan fuel (text.drop o.length)
        | none => .operator (String.singleton c) :: scan fuel rest

/-- The values of variables, with the assignments made so far put over them. -/
structure Variables where
  value : String → Except Fault Int
  assigned : List (String × Int) := []

/-- The value of a variable; it is not asked for where nothing counts. -/
def Variables.get (vs : Variables) (counts : Bool) (name : String) : Except Fault Int :=
  if !counts then .ok 0
  else
    match vs.assigned.find? fun (n, _) => n = name with
    | some (_, v) => .ok v
    | none => vs.value name

/-- A variable is assigned to, where that counts. -/
def Variables.set (vs : Variables) (counts : Bool) (name : String) (value : Int) : Variables :=
  if counts then { vs with assigned := (name, value) :: vs.assigned } else vs

/-- A number brought into range. -/
def wrap (n : Int) : Int :=
  n.bmod UInt64.size

/-- The number that a truth value is. -/
def ofBool (b : Bool) : Int :=
  if b then 1 else 0

/-- The value of an operator between two numbers. -/
def apply (operator : String) (a b : Int) : Except Fault Int :=
  match operator with
  | "*" => .ok (wrap (a * b))
  | "/" => if b = 0 then .error .divisionByZero else .ok (wrap (Int.tdiv a b))
  | "%" => if b = 0 then .error .divisionByZero else .ok (Int.tmod a b)
  | "+" => .ok (wrap (a + b))
  | "-" => .ok (wrap (a - b))
  | "<<" => .ok (wrap (a * Int.ofNat (1 <<< (b % 64).toNat)))
  | ">>" => .ok (a >>> (b % 64).toNat)
  | "<" => .ok (ofBool (a < b))
  | "<=" => .ok (ofBool (a ≤ b))
  | ">" => .ok (ofBool (b < a))
  | ">=" => .ok (ofBool (b ≤ a))
  | "==" => .ok (ofBool (a = b))
  | "!=" => .ok (ofBool (a ≠ b))
  | "&" => .ok (Int64.ofInt a &&& Int64.ofInt b).toInt
  | "^" => .ok (Int64.ofInt a ^^^ Int64.ofInt b).toInt
  | "|" => .ok (Int64.ofInt a ||| Int64.ofInt b).toInt
  | "&&" => .ok (ofBool (a ≠ 0 && b ≠ 0))
  | _ => .ok (ofBool (a ≠ 0 || b ≠ 0))

/-- How tightly an operator binds. -/
def strength? (operator : String) : Option Nat :=
  match operator with
  | "*" | "/" | "%" => some 10
  | "+" | "-" => some 9
  | "<<" | ">>" => some 8
  | "<" | "<=" | ">" | ">=" => some 7
  | "==" | "!=" => some 6
  | "&" => some 5
  | "^" => some 4
  | "|" => some 3
  | "&&" => some 2
  | "||" => some 1
  | _ => none

/-- Whether the second operand of an operator counts after a first one. -/
def secondCounts (operator : String) (first : Int) : Bool :=
  match operator with
  | "&&" => first ≠ 0
  | "||" => first = 0
  | _ => true

mutual

/-- The value of an expression that starts with assignments or a choice. -/
def readWhole : (fuel : Nat) → (counts : Bool) → Variables → List Token →
    Except Fault (Int × Variables × List Token)
  | 0, _, _, _ => .error (.expecting "primary")
  | fuel + 1, counts, vs, tokens => do
      match tokens with
      | .name n :: .operator o :: rest =>
          if o = "=" then
            let (value, vs, left) ← readWhole fuel counts vs rest
            pure (value, vs.set counts n value, left)
          else if o.endsWith "=" && o.length ≥ 2 && (strength? o).isNone then
            let (operand, vs, left) ← readWhole fuel counts vs rest
            if counts then
              let before ← vs.get counts n
              let value ← apply (o.dropEnd 1).toString before operand
              pure (value, vs.set counts n value, left)
            else pure (operand, vs, left)
          else readChoice fuel counts vs tokens
      | _ => readChoice fuel counts vs tokens

/-- The value of an expression with a question mark, or without. -/
def readChoice : (fuel : Nat) → (counts : Bool) → Variables → List Token →
    Except Fault (Int × Variables × List Token)
  | 0, _, _, _ => .error (.expecting "primary")
  | fuel + 1, counts, vs, tokens => do
      let (condition, vs, left) ← readOperand fuel counts vs tokens
      let (condition, vs, left) ← readOperators fuel counts 1 condition vs left
      match left with
      | .operator "?" :: rest =>
          let (first, vs, left) ← readWhole fuel (counts && condition ≠ 0) vs rest
          match left with
          | .operator ":" :: rest =>
              let (second, vs, left) ← readChoice fuel (counts && condition = 0) vs rest
              pure (if condition ≠ 0 then first else second, vs, left)
          | _ => .error (.expecting "':'")
      | _ => pure (condition, vs, left)

/-- The value of operators that bind at least as tightly as a strength, after their first
operand. -/
def readOperators : (fuel : Nat) → (counts : Bool) → (least : Nat) → Int → Variables →
    List Token → Except Fault (Int × Variables × List Token)
  | 0, _, _, _, _, _ => .error (.expecting "primary")
  | fuel + 1, counts, least, first, vs, tokens => do
      match tokens with
      | .operator o :: rest =>
          match strength? o with
          | none => pure (first, vs, tokens)
          | some strength =>
              if strength < least then pure (first, vs, tokens)
              else
                let secondCounts := counts && secondCounts o first
                let (second, vs, left) ← readOperand fuel secondCounts vs rest
                let (second, vs, left) ←
                  readOperators fuel secondCounts (strength + 1) second vs left
                let value ← if counts then apply o first second else pure 0
                readOperators fuel counts least value vs left
      | _ => pure (first, vs, tokens)

/-- The value of a number, a variable, a sign with an operand, or parentheses. -/
def readOperand : (fuel : Nat) → (counts : Bool) → Variables → List Token →
    Except Fault (Int × Variables × List Token)
  | 0, _, _, _ => .error (.expecting "primary")
  | fuel + 1, counts, vs, tokens => do
      match tokens with
      | .number n :: rest => pure (wrap n, vs, rest)
      | .name n :: rest =>
          let value ← vs.get counts n
          pure (value, vs, rest)
      | .operator o :: rest =>
          if o = "(" then
            let (value, vs, left) ← readWhole fuel counts vs rest
            match left with
            | .operator ")" :: left => pure (value, vs, left)
            | _ => .error (.expecting "')'")
          else if ["-", "+", "!", "~"].contains o then
            let (value, vs, left) ← readOperand fuel counts vs rest
            let value := match o with
              | "-" => wrap (-value)
              | "!" => ofBool (value = 0)
              | "~" => -value - 1
              | _ => value
            pure (value, vs, left)
          else .error (.expecting "primary")
      | [] => .error (.expecting "primary")

end

/-- The value of an expression and the assignments in it, the last one first. -/
def evaluate (value : String → Except Fault Int) (text : List Char) :
    Except Fault (Int × List (String × Int)) := do
  let tokens := scan (text.length + 1) text
  let (result, vs, left) ← readWhole (8 * tokens.length + 8) true ⟨value, []⟩ tokens
  if left.isEmpty then pure (result, vs.assigned) else .error (.expecting "EOF")

end PullDiagnostics.Shell.Arithmetic
