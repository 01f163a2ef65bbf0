import PullDiagnostics.Shell.ByteSet

/-!
# Shell patterns

Patterns of selections and of cut parameters: a star stands for any bytes, a question mark
for one, brackets for one of some.

* `accepts_literals`: a pattern of bytes that stand for themselves accepts just these.
-/

namespace PullDiagnostics.Shell

/-- A part of a pattern. -/
inductive PatternPart where
  | literal (b : UInt8)
  | anyByte
  | anyRun
  | oneOf (set : ByteSet)
  deriving DecidableEq, Inhabited

namespace PatternPart

/-- Whether a part that takes one byte takes this one. -/
def takes : PatternPart → UInt8 → Bool
  | .literal b, c => b == c
  | .anyByte, _ => true
  | .anyRun, _ => true
  | .oneOf set, c => set.contains c

/-- Whether a pattern accepts all of some bytes. -/
def accepts : List PatternPart → Bytes → Bool
  | [], bytes => bytes.isEmpty
  | .anyRun :: rest, [] => accepts rest []
  | .anyRun :: rest, b :: bytes => accepts rest (b :: bytes) || accepts (.anyRun :: rest) bytes
  | _ :: _, [] => false
  | part :: rest, b :: bytes => part.takes b && accepts rest bytes
termination_by parts bytes => (parts.length, bytes.length)

/-- A pattern of literals accepts the bytes that it spells. -/
theorem accepts_literals (wanted bytes : Bytes) :
    accepts (wanted.map .literal) bytes = true ↔ bytes = wanted := by
  induction wanted generalizing bytes with
  | nil => simp [accepts]
  | cons w rest ih =>
      cases bytes with
      | nil => simp [accepts]
      | cons b more =>
          rw [List.map_cons, accepts, Bool.and_eq_true, ih]
          · simp only [takes, beq_iff_eq, List.cons.injEq]
            exact and_congr_left fun _ => eq_comm
          · exact fun h => nomatch h

/-- Reads a pattern from bytes, each with whether it is quoted; quoted bytes stand for
themselves. -/
def read : (fuel : Nat) → List (Bool × UInt8) → List PatternPart
  | 0, _ => []
  | _, [] => []
  | fuel + 1, (quoted, b) :: rest =>
      if quoted then .literal b :: read fuel rest
      else if b = 0x2A then .anyRun :: read fuel rest
      else if b = 0x3F then .anyByte :: read fuel rest
      else if b = 0x5B then
        match ByteSet.read? [0x21] rest with
        | some (set, left) => .oneOf set :: read fuel left
        | none => .literal b :: read fuel rest
      else .literal b :: read fuel rest

/-- The pattern that bytes spell. -/
def ofMarked (bytes : List (Bool × UInt8)) : List PatternPart :=
  read bytes.length bytes

/-- A text without the start that a pattern accepts, the longest or the shortest one. -/
def cutStart (parts : List PatternPart) (longest : Bool) (text : Bytes) : Bytes :=
  let lengths := List.range (text.length + 1)
  let tried := if longest then lengths.reverse else lengths
  match tried.find? fun n => accepts parts (text.take n) with
  | some n => text.drop n
  | none => text

/-- A text without the end that a pattern accepts, the longest or the shortest one. -/
def cutEnd (parts : List PatternPart) (longest : Bool) (text : Bytes) : Bytes :=
  let lengths := List.range (text.length + 1)
  let tried := if longest then lengths else lengths.reverse
  match tried.find? fun n => accepts parts (text.drop n) with
  | some n => text.take n
  | none => text

/-- Whether a pattern accepts an end of a text. -/
def acceptsEnd (parts : List PatternPart) (text : Bytes) : Bool :=
  (List.range (text.length + 1)).any fun n => accepts parts (text.drop n)

/-- Texts one after the other without the start that a pattern accepts. It is looked for in the
first text; if that is accepted as a whole by a pattern for the longest start, nothing is
left of the others either. -/
def cutStarts (parts : List PatternPart) (longest : Bool) : List Bytes → List Bytes
  | [] => []
  | first :: rest =>
      if longest && accepts parts first then [[]] else cutStart parts longest first :: rest

/-- Texts one after the other up to the last end of one that a pattern accepts, without the
shortest such end; or none if no end is accepted. -/
def cutLastEnd? (parts : List PatternPart) : List Bytes → Option (List Bytes)
  | [] => none
  | first :: rest =>
      match cutLastEnd? parts rest with
      | some left => some (first :: left)
      | none => if acceptsEnd parts first then some [cutEnd parts false first] else none

/-- Texts one after the other without the end that a pattern accepts, and without the texts
after it. The longest end is looked for in the first text, the shortest from the last one
on. -/
def cutEnds (parts : List PatternPart) (longest : Bool) (texts : List Bytes) : List Bytes :=
  if longest then
    match texts with
    | [] => []
    | first :: rest => if acceptsEnd parts first then [cutEnd parts true first] else first :: rest
  else (cutLastEnd? parts texts).getD texts

end PatternPart

end PullDiagnostics.Shell
