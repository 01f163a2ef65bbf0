import PullDiagnostics.Proofs.Report.Lines
import PullDiagnostics.Report.Reader

/-!
# Reading line by line

A draft takes up lines until one comes that it refuses, and nothing that comes after that changes
it. So the finding that a header opens depends on no more than the lines up to the next header or
summing up, and what a report says can be read piece by piece.

## Main results

* `parse_of_isTextOf`: a report is read line by line, be there a line feed at its end or not.
* `readLines_append`: what stands between a header and what closes its finding makes one finding.
* `Closes`: what ends any finding before it.
* `Draft.takesUp_of_push`: all that a draft can do with a line.
* `Draft.push_of_isOpen`, `Draft.push_detail`, `Draft.push_of_caretColumn?`: what it does with each
  kind of line.
-/

namespace PullDiagnostics.Report

open Text (IsLine)

/-! ### Texts -/

/-- Whether a text holds some lines, with a line feed behind each, or between them only. -/
def IsTextOf (text : List Char) (ls : List (List Char)) : Prop :=
  text = ls.flatMap (· ++ ['\n']) ∨ text = List.intercalate ['\n'] ls

/-- An empty line at the end says nothing. -/
theorem readLines_concat_nil (draft : Option Draft) (ls : List (List Char)) :
    readLines draft (ls ++ [[]]) = readLines draft ls := by
  induction ls generalizing draft with
  | nil => cases draft <;> rfl
  | cons line rest ih =>
      simp only [List.cons_append, readLines]
      split
      next => rw [ih]
      next =>
        split
        · rw [ih]
        · split
          next => exact ih none
          next d =>
            split
            next more _ => exact ih (some more)
            next => rw [ih]

/-- A report is read line by line. -/
theorem parse_of_isTextOf {text : List Char} {ls : List (List Char)} (htext : IsTextOf text ls)
    (hls : ∀ line ∈ ls, IsLine line) : parse text = readLines none ls := by
  rcases htext with rfl | rfl
  · rw [parse, Text.lines_flatMap hls]
  · rcases List.eq_nil_or_concat ls with rfl | ⟨init, last, rfl⟩
    · rfl
    · rw [List.concat_eq_append] at hls ⊢
      have hinit : ∀ line ∈ init, IsLine line := fun line hline =>
        hls line (List.mem_append_left [last] hline)
      rw [parse, Text.lines_intercalate hinit (hls last (by simp))]
      cases last with
      | nil => rw [readLines_concat_nil, List.isEmpty_nil, if_pos rfl, List.append_nil]
      | cons c rest => rfl

/-! ### Drafts -/

namespace Draft

variable {d : Draft} {line : List Char}

/-- A draft after some lines: it takes them up until it refuses one. -/
def taken (d : Draft) : List (List Char) → Draft
  | [] => d
  | line :: rest =>
      match d.push line with
      | some more => more.taken rest
      | none => d

theorem taken_cons {more : Draft} (h : d.push line = some more) (rest : List (List Char)) :
    d.taken (line :: rest) = more.taken rest := by
  rw [taken, h]

/-- Whether a line can be a detail. -/
structure IsDetail (line : List Char) : Prop where
  indented : isIndented line = true
  not_blank : Text.isBlankText line = false

/-- What a draft does with a line that it takes up. -/
inductive TakesUp (d : Draft) (line : List Char) : Draft → Prop
  | blank (hblank : Text.isBlankText line = true) : TakesUp d line d
  | detail {column : ℕ} (hbelow : d.below = .caret column) (hline : IsDetail line) :
      TakesUp d line { d with details := d.details ++ [Text.trim line] }
  | caret {held : Option (List Char)} {column : ℕ} (hbelow : d.below = .noCaret held)
      (hcaret : caretColumn? line = some column) :
      TakesUp d line { d with below := .caret column }
  | held {held : Option (List Char)} (hbelow : d.below = .noCaret held)
      (hblank : Text.isBlankText line = false) (hcaret : caretColumn? line = none) :
      TakesUp d line { d with details := d.settled, below := .noCaret (some line) }

/-- Whatever a draft makes of a line that it does not refuse is listed in `TakesUp`. -/
theorem takesUp_of_push {more : Draft} (h : d.push line = some more) : TakesUp d line more := by
  unfold push at h
  split at h
  next hblank =>
    cases h
    exact .blank hblank
  next hblank =>
    rw [Bool.not_eq_true] at hblank
    split at h
    next column hbelow =>
      split at h <;> cases h
      next hindented => exact .detail hbelow ⟨hindented, hblank⟩
    next held hbelow =>
      split at h
      next column hcaret =>
        cases h
        exact .caret hbelow hcaret
      next hcaret =>
        split at h <;> cases h
        exact .held hbelow hblank hcaret

/-- A draft keeps its header. -/
theorem header_of_push {more : Draft} (h : d.push line = some more) :
    more.header = d.header := by
  cases takesUp_of_push h <;> rfl

/-- What a header says is left alone by the lines below it. -/
theorem header_taken (d : Draft) (ls : List (List Char)) : (d.taken ls).header = d.header := by
  induction ls generalizing d with
  | nil => rfl
  | cons line rest ih =>
      unfold taken
      split
      next more hmore => rw [ih, header_of_push hmore]
      next => rfl

/-- Whether a draft may still meet its caret, and all that it has taken up are details so far. -/
structure IsOpen (d : Draft) (details : List (List Char)) : Prop where
  before_caret : ∃ held, d.below = .noCaret held ∧ ∀ line ∈ held, isIndented line = true
  settled_eq : d.settled = details

theorem isOpen_new (header : Header) : IsOpen { header } [] :=
  ⟨⟨none, rfl, by simp⟩, rfl⟩

/-- Before the caret, a draft holds back a line and keeps as a detail the one it has held. -/
theorem push_of_isOpen {details : List (List Char)} (hd : d.IsOpen details)
    (hblank : Text.isBlankText line = false) (hcaret : caretColumn? line = none)
    (hindented : isIndented line = true ∨ details = []) :
    d.push line = some { d with details, below := .noCaret (some line) } := by
  obtain ⟨⟨held, hbelow, hheld⟩, rfl⟩ := hd
  have hany : held.any (!isIndented ·) = false := by
    cases held with
    | none => rfl
    | some line => simpa using hheld line rfl
  have hlate : (!isIndented line && !d.settled.isEmpty) = false := by
    rcases hindented with h | h <;> simp [h]
  simp only [push, hblank, hbelow, hcaret, hany, hlate, Bool.or_self, Bool.false_eq_true, if_false]

/-- Before the caret, a detail is taken up as such. -/
theorem push_detail {details : List (List Char)} (hd : d.IsOpen details) (hline : IsDetail line)
    (hcaret : caretColumn? line = none) :
    ∃ more, d.push line = some more ∧ more.IsOpen (details ++ [Text.trim line]) := by
  refine ⟨_, push_of_isOpen hd hline.not_blank hcaret (.inl hline.indented), ?_, ?_⟩
  · refine ⟨some line, rfl, fun other hother => ?_⟩
    cases hother
    exact hline.indented
  · simp [settled, hline.indented]

/-- Below the caret, a detail is taken up as such. -/
theorem push_detail_of_caret {column : ℕ} (hd : d.below = .caret column) (hline : IsDetail line) :
    d.push line = some { d with details := d.details ++ [Text.trim line] } := by
  simp only [push, hline.not_blank, hd, hline.indented, Bool.false_eq_true, if_false, if_true]

/-- A caret drops the line that is held back, and the finding has a column. -/
theorem push_of_caretColumn? {held : Option (List Char)} {column : ℕ}
    (hd : d.below = .noCaret held) (h : caretColumn? line = some column) :
    d.push line = some { d with below := .caret column } := by
  simp only [push, not_isBlankText_of_caretColumn? h, hd, h, Bool.false_eq_true, if_false]

/-- Blank lines leave no trace. -/
theorem push_of_blank (d : Draft) (h : Text.isBlankText line = true) : d.push line = some d :=
  if_pos h

/-- Before the caret, details are taken up in their order. -/
theorem taken_details {details : List (List Char)} (hd : d.IsOpen details)
    {ls : List (List Char)} (hls : ∀ line ∈ ls, IsDetail line ∧ caretColumn? line = none)
    (rest : List (List Char)) :
    ∃ more : Draft, more.IsOpen (details ++ ls.map Text.trim) ∧
      d.taken (ls ++ rest) = more.taken rest := by
  induction ls generalizing d details with
  | nil => exact ⟨d, by simpa using hd, rfl⟩
  | cons line others ih =>
      obtain ⟨hline, hcaret⟩ := hls line (List.mem_cons_self ..)
      obtain ⟨next, hnext, hopen⟩ := push_detail hd hline hcaret
      obtain ⟨more, hmore, htaken⟩ := ih hopen fun other hother =>
        hls other (List.mem_cons_of_mem line hother)
      refine ⟨more, by simpa using hmore, ?_⟩
      rw [List.cons_append, taken_cons hnext, htaken]

/-- Below the caret, details are taken up in their order. -/
theorem taken_details_of_caret {column : ℕ} (hd : d.below = .caret column)
    {ls : List (List Char)} (hls : ∀ line ∈ ls, IsDetail line) :
    d.taken ls = { d with details := d.details ++ ls.map Text.trim } := by
  induction ls generalizing d with
  | nil => simp [taken]
  | cons line others ih =>
      have hothers := fun other hother => hls other (List.mem_cons_of_mem line hother)
      rw [taken_cons (push_detail_of_caret hd (hls line (List.mem_cons_self ..)))]
      refine (ih (d := { d with details := d.details ++ [Text.trim line] }) hd hothers).trans ?_
      simp

end Draft

/-! ### What closes a finding -/

/-- Whether some lines end any finding before them, and say the same without it. -/
def Closes (ls : List (List Char)) : Prop :=
  ∀ d : Draft, readLines (some d) ls = d.finish :: readLines none ls

/-- The end of a report closes a finding. -/
theorem closes_nil : Closes [] := fun _ => rfl

/-- A header closes the finding before it. -/
theorem closes_of_header {line : List Char} {header : Header} (h : header? line = some header)
    (rest : List (List Char)) : Closes (line :: rest) := fun d => by
  simp [readLines, h]

/-- A line that sums up closes the finding before it. -/
theorem closes_of_summary {line : List Char} (hheader : header? line = none)
    (hsummary : isSummary line = true) (rest : List (List Char)) : Closes (line :: rest) :=
  fun d => by simp [readLines, hheader, hsummary]

/-- Without a header above them, lines that are no headers say nothing. -/
theorem readLines_none_append {ls : List (List Char)} (hls : ∀ line ∈ ls, header? line = none)
    (rest : List (List Char)) : readLines none (ls ++ rest) = readLines none rest := by
  induction ls with
  | nil => rfl
  | cons line others ih =>
      obtain ⟨hline, hothers⟩ := List.forall_mem_cons.mp hls
      simp [readLines, hline, ih hothers]

/-- A blank line closes a finding if what follows it does. -/
theorem closes_of_blank {line : List Char} (h : Text.isBlankText line = true)
    {rest : List (List Char)} (hrest : Closes rest) : Closes (line :: rest) := fun d => by
  have hplain : IsPlain line := isPlain_of_blank h
  simp [readLines, hplain.no_header, hplain.no_summary, d.push_of_blank h, hrest d]

/-- **One finding.** A draft takes up plain lines, or refuses one and all that are below it; what
closes the finding never sees which. -/
theorem readLines_append {ls : List (List Char)} (hls : ∀ line ∈ ls, IsPlain line)
    {rest : List (List Char)} (hrest : Closes rest) (d : Draft) :
    readLines (some d) (ls ++ rest) = (d.taken ls).finish :: readLines none rest := by
  induction ls generalizing d with
  | nil => exact hrest d
  | cons line others ih =>
      obtain ⟨hline, hothers⟩ := List.forall_mem_cons.mp hls
      have hnone : readLines none (others ++ rest) = readLines none rest :=
        readLines_none_append (fun other hother => (hothers other hother).no_header) rest
      simp only [List.cons_append, readLines, hline.no_header, hline.no_summary,
        Bool.false_eq_true, if_false, Draft.taken]
      cases d.push line with
      | some more => exact ih hothers more
      | none => exact congrArg (d.finish :: ·) hnone

end PullDiagnostics.Report
