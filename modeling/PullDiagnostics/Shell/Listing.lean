import PullDiagnostics.Shell.Format

/-!
# Listing files

How the program that prints files shows what is in them: as it is, or with numbers before
lines, marks at their ends, and bytes that cannot be printed made visible.
-/

namespace PullDiagnostics.Shell

/-- How a text is to be shown. -/
structure Listing where
  /-- Numbers before all lines, or only before those that are not empty. -/
  numbered : Bool := false
  filledOnly : Bool := false
  /-- A dollar sign before the end of each line. -/
  ends : Bool := false
  tabs : Bool := false
  visible : Bool := false
  /-- Of several empty lines one after the other only the first. -/
  squeezed : Bool := false
  deriving DecidableEq

namespace Listing

/-- A listing with the option that a letter stands for. -/
def withLetter? (l : Listing) (letter : UInt8) : Option Listing :=
  match Char.ofNat letter.toNat with
  | 'n' => some { l with numbered := true }
  | 'b' => some { l with numbered := true, filledOnly := true }
  | 'E' => some { l with ends := true }
  | 'e' => some { l with ends := true, visible := true }
  | 'T' => some { l with tabs := true }
  | 't' => some { l with tabs := true, visible := true }
  | 'v' => some { l with visible := true }
  | 'A' => some { l with ends := true, tabs := true, visible := true }
  | 's' => some { l with squeezed := true }
  | 'u' => some l
  | _ => none

/-- The letters of options with long names. -/
def longOptions : List (String × Char) :=
  [("--number", 'n'), ("--number-nonblank", 'b'), ("--show-ends", 'E'), ("--show-tabs", 'T'),
    ("--show-nonprinting", 'v'), ("--show-all", 'A'), ("--squeeze-blank", 's')]

/-- A listing with the options of some letters, or the first letter that is none. -/
def withLetters (l : Listing) : Bytes → Except UInt8 Listing
  | [] => .ok l
  | b :: rest =>
      match l.withLetter? b with
      | some l => l.withLetters rest
      | none => .error b

/-- A byte made visible, where a line end and a tab stay what they are. -/
def visibleByte (b : UInt8) : Bytes :=
  let low (c : UInt8) : Bytes :=
    if c < 0x20 then [0x5E, c + 0x40] else if c = 0x7F then [0x5E, 0x3F] else [c]
  if b = 0x09 then [b]
  else if b < 0x80 then low b
  else [0x4D, 0x2D] ++ low (b - 0x80)

/-- A byte of a line as it is shown. -/
def shownByte (l : Listing) (b : UInt8) : Bytes :=
  if l.tabs && b = 0x09 then [0x5E, 0x49]
  else if l.visible then visibleByte b
  else [b]

/-- The number before a line. -/
def label (n : Nat) : Bytes :=
  let digits := Utf8.encode (Nat.toDigits 10 n)
  List.replicate (6 - digits.length) 0x20 ++ digits ++ [0x09]

/-- The lines of a text as they are shown: of each line its bytes and whether it has an end.
Lines that have been numbered are counted, and whether the line before was empty. -/
def shownLines (l : Listing) : (numbered : Nat) → (afterEmpty : Bool) → List (Bytes × Bool) →
    Bytes
  | _, _, [] => []
  | numbered, afterEmpty, (line, ended) :: rest =>
      if l.squeezed && afterEmpty && line.isEmpty && ended then
        shownLines l numbered true rest
      else
        let isNumbered := l.numbered && !(l.filledOnly && line.isEmpty)
        let numbered := if isNumbered then numbered + 1 else numbered
        (if isNumbered then label numbered else []) ++ line.flatMap l.shownByte ++
          (if ended then (if l.ends then [0x24, 0x0A] else [0x0A]) else []) ++
          shownLines l numbered (line.isEmpty && ended) rest

/-- The lines of a text, each with whether it has an end. -/
def lines (text : Bytes) : List (Bytes × Bool) :=
  let pieces := text.splitOn 0x0A
  let last := pieces.getLast?.getD []
  pieces.dropLast.map (·, true) ++ if last.isEmpty then [] else [(last, false)]

/-- A text as it is shown. -/
def shown (l : Listing) (text : Bytes) : Bytes :=
  if l = {} then text else l.shownLines 0 false (lines text)

end Listing

end PullDiagnostics.Shell
