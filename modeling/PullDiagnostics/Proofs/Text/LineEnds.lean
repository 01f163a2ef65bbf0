import Mathlib.Data.List.TakeWhile
import PullDiagnostics.Text.Line

/-!
# Lines with their ends

A text is its lines with their ends, one after the other, and a line is what is left when its end
is taken away. Any stretch of lines with their ends is a text of just these lines, so a text can be
cut wherever a line begins.

## Main results

* `flatten_linesWithEnds`: nothing of a text is lost.
* `isLined_linesWithEnds`, `IsLined.of_append`: what lines with their ends look like, and stretches
  of them.
* `IsLined.lines_flatten`: the lines of a stretch are its lines without their ends.
-/

namespace PullDiagnostics.Text

/-- What stands at the end of a text behind its last line feed: a line, unless it is empty. -/
def lastLine (last : List Char) : List (List Char) :=
  if last.isEmpty then [] else [last]

/-- The lines of a text with their ends; the last one may have none. -/
def linesWithEnds (text : List Char) : List (List Char) :=
  (text.splitOn '\n').dropLast.map (· ++ ['\n']) ++
    ((text.splitOn '\n').getLast?.map lastLine).getD []

/-- A line without its end. -/
def withoutEnd (line : List Char) : List Char :=
  if line.getLast? = some '\n' then dropReturn '\r' line.dropLast else line

/-- Whether some lines have a line feed at the end and nowhere else; the last one may have none. -/
def IsLined (ls : List (List Char)) : Prop :=
  ∃ (ended : List (List Char)) (last : List Char), (∀ line ∈ ended, '\n' ∉ line) ∧ '\n' ∉ last ∧
    ls = ended.map (· ++ ['\n']) ++ lastLine last

/-- What stands in a piece of a text stands in the text. -/
theorem mem_of_mem_splitOn {α : Type} [DecidableEq α] {mark c : α} {text piece : List α}
    (h : piece ∈ text.splitOn mark) (hc : c ∈ piece) : c ∈ text := by
  induction text generalizing piece with
  | nil => simp_all
  | cons d rest ih =>
      rw [List.splitOn_cons_eq_if_modifyHead] at h
      obtain ⟨first, others, hpieces⟩ := List.exists_cons_of_ne_nil (List.splitOn_ne_nil mark rest)
      rw [hpieces] at ih h
      split at h
      next =>
        rcases List.mem_cons.mp h with rfl | h
        · cases hc
        · exact List.mem_cons_of_mem d (ih h hc)
      next =>
        rcases List.mem_cons.mp h with rfl | h
        · rcases List.mem_cons.mp hc with rfl | hc
          · exact List.mem_cons_self ..
          · exact List.mem_cons_of_mem d (ih (List.mem_cons_self ..) hc)
        · exact List.mem_cons_of_mem d (ih (List.mem_cons_of_mem first h) hc)

/-- A mark that a text is split at stands in none of its pieces. -/
theorem not_mem_of_mem_splitOn {α : Type} [DecidableEq α] {c : α} {text piece : List α}
    (h : piece ∈ text.splitOn c) : c ∉ piece := by
  induction text generalizing piece with
  | nil => simp_all
  | cons d rest ih =>
      rw [List.splitOn_cons_eq_if_modifyHead] at h
      obtain ⟨first, others, hpieces⟩ := List.exists_cons_of_ne_nil (List.splitOn_ne_nil c rest)
      rw [hpieces] at ih h
      split at h
      next =>
        rcases List.mem_cons.mp h with rfl | h
        · simp
        · exact ih h
      next hne =>
        rcases List.mem_cons.mp h with rfl | h
        · rw [List.mem_cons, not_or]
          exact ⟨fun heq => hne (by simp [heq]), ih (List.mem_cons_self ..)⟩
        · exact ih (List.mem_cons_of_mem first h)

/-- A text is made of its pieces, the last one of which is the rest behind all line feeds. -/
theorem exists_splitOn_eq (text : List Char) :
    ∃ ended last, text.splitOn '\n' = ended ++ [last] ∧ (∀ line ∈ ended, '\n' ∉ line) ∧
      '\n' ∉ last := by
  have hne : text.splitOn '\n' ≠ [] := List.splitOn_ne_nil _ _
  have hpieces := List.dropLast_concat_getLast hne
  exact ⟨_, _, hpieces.symm,
    fun line hline => not_mem_of_mem_splitOn (List.dropLast_subset _ hline),
    not_mem_of_mem_splitOn (List.getLast_mem hne)⟩

/-- All lines but the last have a line feed behind them. -/
theorem linesWithEnds_eq {text last : List Char} {ended : List (List Char)}
    (h : text.splitOn '\n' = ended ++ [last]) :
    linesWithEnds text = ended.map (· ++ ['\n']) ++ lastLine last := by
  simp [linesWithEnds, h]

/-- Lines with their ends, one after the other, are the lines with line feeds between them. -/
theorem flatten_eq_intercalate (ended : List (List Char)) (last : List Char) :
    (ended.map (· ++ ['\n']) ++ lastLine last).flatten =
      List.intercalate ['\n'] (ended ++ [last]) := by
  induction ended with
  | nil => cases last <;> simp [lastLine]
  | cons line rest ih =>
      rw [List.map_cons, List.cons_append, List.flatten_cons, ih]
      cases rest <;> simp [List.intercalate_cons_cons]

/-- Nothing of a text is lost. -/
theorem flatten_linesWithEnds (text : List Char) : (linesWithEnds text).flatten = text := by
  obtain ⟨ended, last, hpieces, -, -⟩ := exists_splitOn_eq text
  rw [linesWithEnds_eq hpieces, flatten_eq_intercalate, ← hpieces, List.intercalate_splitOn]

/-- A text is cut at its line feeds only. -/
theorem isLined_linesWithEnds (text : List Char) : IsLined (linesWithEnds text) := by
  obtain ⟨ended, last, hpieces, hended, hlast⟩ := exists_splitOn_eq text
  exact ⟨ended, last, hended, hlast, linesWithEnds_eq hpieces⟩

/-- What holds of lines holds of each stretch of them. -/
theorem IsLined.of_append {a b : List (List Char)} (h : IsLined (a ++ b)) :
    IsLined a ∧ IsLined b := by
  obtain ⟨ended, last, hended, hlast, heq⟩ := h
  rcases List.append_eq_append_iff.mp heq with ⟨more, hmap, rfl⟩ | ⟨more, rfl, htail⟩
  · obtain ⟨front, back, rfl, rfl, rfl⟩ := List.map_eq_append_iff.mp hmap
    have hfront : ∀ line ∈ front, '\n' ∉ line := fun line hline =>
      hended line (List.mem_append_left _ hline)
    have hback : ∀ line ∈ back, '\n' ∉ line := fun line hline =>
      hended line (List.mem_append_right _ hline)
    exact ⟨⟨front, [], hfront, by simp, by simp [lastLine]⟩, back, last, hback, hlast, rfl⟩
  · -- The cut is at the rest behind the last line feed, or behind it.
    have hsides : more = [] ∧ b = lastLine last ∨ more = lastLine last ∧ b = [] := by
      cases last with
      | nil => exact .inl (List.append_eq_nil_iff.mp htail.symm)
      | cons c rest => exact List.append_eq_singleton_iff.mp htail.symm
    rcases hsides with ⟨rfl, rfl⟩ | ⟨rfl, rfl⟩
    · exact ⟨⟨ended, [], hended, by simp, by simp [lastLine]⟩, [], last, by simp, hlast, by simp⟩
    · exact ⟨⟨ended, last, hended, hlast, rfl⟩, [], [], by simp, by simp, by simp [lastLine]⟩

/-- Some of the lines in a row are cut the same way. -/
theorem IsLined.of_mem_flatten {stretches : List (List (List Char))} {ls : List (List Char)}
    (h : IsLined stretches.flatten) (hls : ls ∈ stretches) : IsLined ls := by
  obtain ⟨before, after, rfl⟩ := List.append_of_mem hls
  rw [List.flatten_append, List.flatten_cons] at h
  exact h.of_append.2.of_append.1

/-- A line with a line feed loses it, and the carriage return before it. -/
theorem withoutEnd_concat (line : List Char) :
    withoutEnd (line ++ ['\n']) = dropReturn '\r' line := by
  simp [withoutEnd]

/-- A line without a line feed loses nothing. -/
theorem withoutEnd_of_not_mem {line : List Char} (h : '\n' ∉ line) : withoutEnd line = line :=
  if_neg fun hlast => h (List.mem_of_getLast? hlast)

/-- A text that is written with line feeds between its lines is read as these lines, each without a
carriage return at its end, and the rest behind the last line feed. -/
theorem lines_intercalate_of_not_mem {ended : List (List Char)} {last : List Char}
    (hended : ∀ line ∈ ended, '\n' ∉ line) (hlast : '\n' ∉ last) :
    lines (List.intercalate ['\n'] (ended ++ [last])) =
      ended.map (dropReturn '\r') ++ lastLine last := by
  have hpieces : ∀ line ∈ ended ++ [last], '\n' ∉ line := by
    intro line hline
    rcases List.mem_append.mp hline with hline | hline
    · exact hended line hline
    · exact List.mem_singleton.mp hline ▸ hlast
  rw [lines, linesBy, List.splitOn_intercalate '\n' hpieces (by simp)]
  simp [lastLine]

/-- **Lines of a stretch.** They are its lines without their ends. -/
theorem IsLined.lines_flatten {ls : List (List Char)} (h : IsLined ls) :
    lines ls.flatten = ls.map withoutEnd := by
  obtain ⟨ended, last, hended, hlast, rfl⟩ := h
  have hrest : (lastLine last).map withoutEnd = lastLine last := by
    cases last with
    | nil => rfl
    | cons c rest => simp [lastLine, withoutEnd_of_not_mem hlast]
  rw [flatten_eq_intercalate, lines_intercalate_of_not_mem hended hlast, List.map_append, hrest,
    List.map_map]
  simp [Function.comp_def, withoutEnd_concat]

/-- The lines of a text are those with ends, without them. -/
theorem lines_eq_map_withoutEnd (text : List Char) :
    lines text = (linesWithEnds text).map withoutEnd := by
  have hlines := (isLined_linesWithEnds text).lines_flatten
  rwa [flatten_linesWithEnds] at hlines

end PullDiagnostics.Text
