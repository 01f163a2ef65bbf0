import PullDiagnostics.Text.Blank

/-!
# Lines of a text

A line ends at a line feed, which may have a carriage return before it; neither belongs to
the line. Text after the last line feed is a line of its own if there is any, and keeps a
carriage return at its end. The rule is the same for characters and for bytes.
-/

namespace PullDiagnostics.Text

/-- A line without the carriage return that stood before its line feed. -/
def dropReturn {α : Type} [DecidableEq α] (carriageReturn : α) (line : List α) : List α :=
  if line.getLast? = some carriageReturn then line.dropLast else line

/-- The lines of a text, for given marks at their ends. -/
def linesBy {α : Type} [DecidableEq α] (lineFeed carriageReturn : α) (text : List α) :
    List (List α) :=
  let pieces := text.splitOn lineFeed
  pieces.dropLast.map (dropReturn carriageReturn) ++
    (match pieces.getLast? with
      | none => []
      | some last => if last.isEmpty then [] else [last])

/-- The lines of a text. -/
def lines (text : List Char) : List (List Char) :=
  linesBy '\n' '\r' text

end PullDiagnostics.Text
