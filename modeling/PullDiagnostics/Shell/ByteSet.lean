import PullDiagnostics.Bytes

/-!
# Sets of bytes in brackets

Brackets in patterns and in expressions stand for one byte of some: single ones, ranges, and
classes by name. Each byte of the text comes with whether it is quoted, since a quoted byte
closes nothing and begins nothing.
-/

namespace PullDiagnostics.Shell

/-- The bytes in some ranges, or all bytes but those. -/
structure ByteSet where
  negated : Bool := false
  ranges : List (UInt8 × UInt8) := []
  deriving DecidableEq, Inhabited

namespace ByteSet

/-- Whether a byte is in a set. -/
def contains (s : ByteSet) (b : UInt8) : Bool :=
  (s.ranges.any fun (low, high) => low ≤ b && b ≤ high) != s.negated

/-- The set of one byte. -/
def single (b : UInt8) : ByteSet :=
  { ranges := [(b, b)] }

/-- The set of all bytes. -/
def all : ByteSet :=
  { negated := true }

/-- The bytes of a class. -/
def classRanges? (name : Bytes) : Option (List (UInt8 × UInt8)) :=
  let digits : List (UInt8 × UInt8) := [(0x30, 0x39)]
  let upper : List (UInt8 × UInt8) := [(0x41, 0x5A)]
  let lower : List (UInt8 × UInt8) := [(0x61, 0x7A)]
  match String.ofList (name.map fun b => Char.ofNat b.toNat) with
  | "digit" => some digits
  | "upper" => some upper
  | "lower" => some lower
  | "alpha" => some (upper ++ lower)
  | "alnum" => some (digits ++ upper ++ lower)
  | "xdigit" => some (digits ++ [(0x41, 0x46), (0x61, 0x66)])
  | "space" => some [(0x09, 0x0D), (0x20, 0x20)]
  | "blank" => some [(0x09, 0x09), (0x20, 0x20)]
  | "punct" => some [(0x21, 0x2F), (0x3A, 0x40), (0x5B, 0x60), (0x7B, 0x7E)]
  | "print" => some [(0x20, 0x7E)]
  | "graph" => some [(0x21, 0x7E)]
  | "cntrl" => some [(0x00, 0x1F), (0x7F, 0x7F)]
  | _ => none

/-- Bytes of words. -/
def wordBytes : ByteSet :=
  { ranges := [(0x30, 0x39), (0x41, 0x5A), (0x5F, 0x5F), (0x61, 0x7A)] }

/-- Blanks and line ends. -/
def spaces : ByteSet :=
  { ranges := [(0x09, 0x0D), (0x20, 0x20)] }

/-- All bytes that are not in a set. -/
def complement (s : ByteSet) : ByteSet :=
  { s with negated := !s.negated }

/-- The set without regard to small and capital letters. -/
def foldCase (s : ByteSet) : ByteSet :=
  let inside (b : UInt8) : Bool := s.ranges.any fun (low, high) => low ≤ b && b ≤ high
  let letters := (List.range 26).map fun n => (0x41 + n.toUInt8, 0x61 + n.toUInt8)
  let more := letters.flatMap fun (upper, lower) =>
    if inside upper || inside lower then [(upper, upper), (lower, lower)] else []
  { s with ranges := s.ranges ++ more }

/-- The class that a text inside brackets begins with, and what follows it. -/
def readClass? (text : List (Bool × UInt8)) :
    Option (List (UInt8 × UInt8) × List (Bool × UInt8)) :=
  match text with
  | (false, 0x5B) :: (_, 0x3A) :: rest =>
      let name := rest.takeWhile fun (_, b) => b ≠ 0x3A
      match rest.drop name.length with
      | (_, 0x3A) :: (_, 0x5D) :: left =>
          (classRanges? (name.map (·.2))).map fun ranges => (ranges, left)
      | _ => none
  | _ => none

/-- Reads what is inside brackets, and takes the bracket that closes them. -/
def readRanges : (fuel : Nat) → (first : Bool) → List (Bool × UInt8) →
    Option (List (UInt8 × UInt8) × List (Bool × UInt8))
  | 0, _, _ => none
  | _, _, [] => none
  | fuel + 1, first, (quoted, b) :: rest =>
      if b = 0x5D && !quoted && !first then some ([], rest)
      else
        match readClass? ((quoted, b) :: rest) with
        | some (ranges, left) =>
            (readRanges fuel false left).map fun (more, left) => (ranges ++ more, left)
        | none =>
            let one (_ : Unit) :=
              (readRanges fuel false rest).map fun (more, left) => ((b, b) :: more, left)
            match rest with
            | (false, 0x2D) :: (highQuoted, high) :: left =>
                if high = 0x5D && !highQuoted then one ()
                else (readRanges fuel false left).map fun (more, left) => ((b, high) :: more, left)
            | _ => one ()

/-- Reads a set after the bracket that opens it. One of some marks negates it. -/
def read? (negations : List UInt8) (text : List (Bool × UInt8)) :
    Option (ByteSet × List (Bool × UInt8)) :=
  let (negated, inner) : Bool × List (Bool × UInt8) :=
    match text with
    | (false, b) :: more => if negations.contains b then (true, more) else (false, text)
    | _ => (false, text)
  (readRanges (inner.length + 1) true inner).map fun (ranges, left) =>
    ({ negated, ranges }, left)

end ByteSet

end PullDiagnostics.Shell
