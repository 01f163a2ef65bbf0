import PullDiagnostics.Shell.Format
import PullDiagnostics.Shell.ByteSet

/-!
# Regular expressions over bytes

Expressions in their basic and in their extended spelling. What an expression matches is told
by the places that it leads to: the byte before a place, and what is left of the line.
-/

namespace PullDiagnostics.Shell

/-- A regular expression. -/
inductive Regex where
  | empty
  | oneOf (set : ByteSet)
  | lineStart
  | lineEnd
  /-- A place before which, or after which, or on just one side of which a word is. -/
  | wordEdge (before after : Bool)
  | notAtWordEdge
  | both (first second : Regex)
  | either (first second : Regex)
  | many (body : Regex)
  deriving Inhabited

namespace Regex

/-- A place in a line. -/
structure Spot where
  before : Option UInt8
  left : Bytes
  deriving DecidableEq

namespace Spot

/-- Whether a word stands before a place. -/
def isAfterWord (s : Spot) : Bool :=
  s.before.any ByteSet.wordBytes.contains

/-- Whether a word stands after a place. -/
def isBeforeWord (s : Spot) : Bool :=
  s.left.head?.any ByteSet.wordBytes.contains

/-- Places that take part once each. -/
def distinct (spots : List Spot) : List Spot :=
  spots.foldl (fun kept s => if kept.contains s then kept else kept ++ [s]) []

/-- The places of a line. -/
def all (before : Option UInt8) : Bytes → List Spot
  | [] => [⟨before, []⟩]
  | b :: rest => ⟨before, b :: rest⟩ :: all (some b) rest

end Spot

/-- All places that repetitions of a step lead to. -/
def closure (step : List Spot → List Spot) : (fuel : Nat) → List Spot → List Spot
  | 0, spots => spots
  | fuel + 1, spots => closure step fuel (Spot.distinct (spots ++ step spots))

/-- The places that an expression leads to. -/
def advance : Regex → List Spot → List Spot
  | .empty, spots => spots
  | .oneOf set, spots =>
      spots.filterMap fun s =>
        match s.left with
        | [] => none
        | b :: rest => if set.contains b then some ⟨some b, rest⟩ else none
  | .lineStart, spots => spots.filter (·.before.isNone)
  | .lineEnd, spots => spots.filter (·.left.isEmpty)
  | .wordEdge before after, spots =>
      spots.filter fun s =>
        (before && s.isAfterWord && !s.isBeforeWord) ||
          (after && !s.isAfterWord && s.isBeforeWord)
  | .notAtWordEdge, spots => spots.filter fun s => s.isAfterWord == s.isBeforeWord
  | .both first second, spots => advance second (advance first spots)
  | .either first second, spots => Spot.distinct (advance first spots ++ advance second spots)
  | .many body, spots =>
      let longest := (spots.map (·.left.length)).foldl max 0
      closure (advance body) longest (Spot.distinct spots)

/-- The bytes of an expression without regard to small and capital letters. -/
def foldCase : Regex → Regex
  | .oneOf set => .oneOf set.foldCase
  | .both first second => .both first.foldCase second.foldCase
  | .either first second => .either first.foldCase second.foldCase
  | .many body => .many body.foldCase
  | e => e

/-- The expression of bytes that stand for themselves. -/
def literal : Bytes → Regex
  | [] => .empty
  | b :: rest => .both (.oneOf (.single b)) (literal rest)

/-- An expression several times. -/
def times (e : Regex) : Nat → Regex
  | 0 => .empty
  | n + 1 => .both e (times e n)

/-- An expression at most several times. -/
def upTo (e : Regex) : Nat → Regex
  | 0 => .empty
  | n + 1 => .either .empty (.both e (upTo e n))

/-! ### Reading expressions -/

/-- Why a text is no expression. -/
inductive Fault where
  | openParenthesis
  | strayParenthesis
  | openBracket
  | openBrace
  | badInterval
  | trailingBackslash
  | loneBracket
  deriving DecidableEq, Inhabited

/-- What is said of a text that is no expression. -/
def Fault.message : Fault → String
  | .openParenthesis => "Unmatched ( or \\("
  | .strayParenthesis => "Unmatched ) or \\)"
  | .openBracket => "Unmatched [, [^, [:, [., or [="
  | .openBrace => "Unmatched \\\x7b"
  | .badInterval => "Invalid content of \\\x7b\\\x7d"
  | .trailingBackslash => "Trailing backslash"
  | .loneBracket => "Invalid regular expression"

/-- A mark that needs a backslash in the basic spelling and none in the extended one. -/
def takeMark (extended : Bool) (mark : UInt8) (text : Bytes) : Option Bytes :=
  match text with
  | b :: rest =>
      if extended then if b = mark then some rest else none
      else if b = 0x5C && rest.head? = some mark then some rest.tail
      else none
  | [] => none

/-- The bounds of an interval, and what follows it. -/
def readInterval (extended : Bool) (text : Bytes) :
    Except Fault (Nat × Option Nat × Bytes) :=
  let low := text.takeWhile Numeral.isDigit
  let left := text.drop low.length
  let close (low : Nat) (high : Option Nat) (left : Bytes) :
      Except Fault (Nat × Option Nat × Bytes) :=
    match takeMark extended 0x7D left with
    | some left => .ok (low, high, left)
    | none => .error (if left.isEmpty then .openBrace else .badInterval)
  match left with
  | 0x2C :: rest =>
      let high := rest.takeWhile Numeral.isDigit
      close (Numeral.decimal low) (if high.isEmpty then none else some (Numeral.decimal high))
        (rest.drop high.length)
  | _ =>
      if low.isEmpty then .error (if left.isEmpty then .openBrace else .badInterval)
      else close (Numeral.decimal low) (some (Numeral.decimal low)) left

/-- An expression with the repetition that a text starts with, and what follows that. -/
def readRepeat (extended : Bool) (e : Regex) (text : Bytes) :
    Except Fault (Option (Regex × Bytes)) :=
  match text with
  | [] => .ok none
  | b :: rest =>
      if b = 0x2A then .ok (some (.many e, rest))
      else
        match takeMark extended 0x2B text, takeMark extended 0x3F text,
            takeMark extended 0x7B text with
        | some left, _, _ => .ok (some (.both e (.many e), left))
        | _, some left, _ => .ok (some (.either e .empty, left))
        | _, _, some inner =>
            match readInterval extended inner with
            | .ok (low, some high, left) =>
                if high < low then .error .badInterval
                else .ok (some (.both (e.times low) (e.upTo (high - low)), left))
            | .ok (low, none, left) => .ok (some (.both (e.times low) (.many e), left))
            | .error fault => if extended then .ok none else .error fault
        | _, _, _ => .ok none

/-- Reads the repetitions of an expression. -/
def readRepeats (extended : Bool) : (fuel : Nat) → Regex → Bytes →
    Except Fault (Regex × Bytes)
  | 0, e, text => .ok (e, text)
  | fuel + 1, e, text => do
      match ← readRepeat extended e text with
      | some (e, left) => readRepeats extended fuel e left
      | none => pure (e, text)

/-- What a byte after a backslash stands for. -/
def escaped (b : UInt8) : Regex :=
  match Char.ofNat b.toNat with
  | 'w' => .oneOf .wordBytes
  | 'W' => .oneOf ByteSet.wordBytes.complement
  | 's' => .oneOf .spaces
  | 'S' => .oneOf ByteSet.spaces.complement
  | 'b' => .wordEdge true true
  | 'B' => .notAtWordEdge
  | '<' => .wordEdge false true
  | '>' => .wordEdge true false
  | _ => .oneOf (.single b)

mutual

/-- Reads alternatives. -/
def readEither (extended : Bool) : (fuel : Nat) → (inside : Bool) → Bytes →
    Except Fault (Regex × Bytes)
  | 0, _, _ => .error .openParenthesis
  | fuel + 1, inside, text => do
      let (first, left) ← readSequence extended fuel inside true text
      match takeMark extended 0x7C left with
      | some rest =>
          let (second, left) ← readEither extended fuel inside rest
          pure (.either first second, left)
      | none => pure (first, left)

/-- Reads expressions one after the other. -/
def readSequence (extended : Bool) : (fuel : Nat) → (inside first : Bool) → Bytes →
    Except Fault (Regex × Bytes)
  | 0, _, _, _ => .error .openParenthesis
  | fuel + 1, inside, first, text => do
      if text.isEmpty || (takeMark extended 0x7C text).isSome then pure (.empty, text)
      else if (takeMark extended 0x29 text).isSome then
        if inside then pure (.empty, text)
        else if extended then
          let (rest, left) ← readSequence extended fuel inside false text.tail
          pure (.both (.oneOf (.single 0x29)) rest, left)
        else .error .strayParenthesis
      else
        let (e, left) ← readOne extended fuel first text
        let (e, left) ← readRepeats extended left.length e left
        let (rest, left) ← readSequence extended fuel inside (first && e matches .lineStart) left
        pure (.both e rest, left)

/-- Reads one expression without its repetitions. -/
def readOne (extended : Bool) : (fuel : Nat) → (first : Bool) → Bytes →
    Except Fault (Regex × Bytes)
  | 0, _, _ => .error .openParenthesis
  | fuel + 1, first, text => do
      match takeMark extended 0x28 text with
      | some rest =>
          let (e, left) ← readEither extended fuel true rest
          match takeMark extended 0x29 left with
          | some left => pure (e, left)
          | none => .error .openParenthesis
      | none =>
          match text with
          | [] => pure (.empty, [])
          | 0x2E :: rest => pure (.oneOf .all, rest)
          | 0x5E :: rest =>
              if extended || first then pure (.lineStart, rest)
              else pure (.oneOf (.single 0x5E), rest)
          | 0x24 :: rest =>
              if extended || rest.isEmpty || (takeMark extended 0x29 rest).isSome ||
                  (takeMark extended 0x7C rest).isSome then
                pure (.lineEnd, rest)
              else pure (.oneOf (.single 0x24), rest)
          | 0x2A :: rest =>
              if extended then pure (.empty, rest) else pure (.oneOf (.single 0x2A), rest)
          | 0x5B :: rest =>
              match ByteSet.read? [0x5E] (rest.map (false, ·)) with
              | some (set, left) => pure (.oneOf set, left.map (·.2))
              | none => .error (if rest.isEmpty then .loneBracket else .openBracket)
          | [0x5C] => .error .trailingBackslash
          | 0x5C :: b :: rest => pure (escaped b, rest)
          | b :: rest => pure (.oneOf (.single b), rest)

end

/-- Reads an expression. -/
def read (extended : Bool) (text : Bytes) : Except Fault Regex :=
  (readEither extended (8 * text.length + 8) false text).map (·.1)

end Regex

end PullDiagnostics.Shell
