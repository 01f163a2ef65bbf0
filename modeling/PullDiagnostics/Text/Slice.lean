/-!
# Slices

A place in a text is counted in the bytes of its characters. Cutting at a place is possible
only where a character begins or the text ends.

* `dropBytes?_zero`, `cut?_whole`: what cutting at the ends gives.
-/

namespace PullDiagnostics.Text

/-- How many bytes a text has. -/
def byteLength : List Char → Nat
  | [] => 0
  | c :: rest => byteLength rest + c.utf8Size

/-- What stands from a place on. -/
def dropBytes? : (place : Nat) → List Char → Option (List Char)
  | 0, text => some text
  | _ + 1, [] => none
  | n + 1, c :: rest =>
      if c.utf8Size ≤ n + 1 then dropBytes? (n + 1 - c.utf8Size) rest else none
  termination_by _ text => text.length

/-- What stands before a place. -/
def takeBytes? : (place : Nat) → List Char → Option (List Char)
  | 0, _ => some []
  | _ + 1, [] => none
  | n + 1, c :: rest =>
      if c.utf8Size ≤ n + 1 then (takeBytes? (n + 1 - c.utf8Size) rest).map (c :: ·) else none
  termination_by _ text => text.length

/-- What stands between two places. -/
def cut? (text : List Char) (start stop : Nat) : Option (List Char) :=
  (dropBytes? start text).bind (takeBytes? (stop - start))

theorem dropBytes?_zero (text : List Char) : dropBytes? 0 text = some text := by
  simp [dropBytes?]

/-- A text is cut from itself by its length. -/
theorem takeBytes?_byteLength (text : List Char) :
    takeBytes? (byteLength text) text = some text := by
  induction text with
  | nil => simp [byteLength, takeBytes?]
  | cons c rest ih =>
      obtain ⟨n, hn⟩ : ∃ n, byteLength rest + c.utf8Size = n + 1 :=
        ⟨byteLength rest + c.utf8Size - 1, by have := c.utf8Size_pos; omega⟩
      have hle : c.utf8Size ≤ n + 1 := by omega
      have hsub : n + 1 - c.utf8Size = byteLength rest := by omega
      rw [byteLength, hn, takeBytes?]
      simp [hle, hsub, ih]

/-- The cut from the first to the last byte is the text. -/
theorem cut?_whole (text : List Char) : cut? text 0 (byteLength text) = some text := by
  simp [cut?, dropBytes?_zero, takeBytes?_byteLength]

end PullDiagnostics.Text
