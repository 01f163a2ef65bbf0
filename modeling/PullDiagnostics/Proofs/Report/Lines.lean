import PullDiagnostics.Proofs.FileTree.Names
import PullDiagnostics.Proofs.Text.Blank
import PullDiagnostics.Proofs.Text.LineEnds
import PullDiagnostics.Report.Line

/-!
# What the lines of a report are

A text splits into the lines that it was written from, and a line tells by its own text what it is.
Only a line with a colon can be a header; only one that starts with digits, but for blanks, can sum
up; and a caret under a margin is neither.

## Main results

* `Text.lines_intercalate`: the lines of a text are those that it was written from, but for an
  empty one at its end.
* `header?_eq_some`, `header?_eq_none`: which lines are headers.
* `isPlain_of_blank`, `isPlain_of_caretColumn?`: what neither opens a finding nor sums up.
* `isSummary_summaryLine`: a number with a noun sums up.
* `caretColumn?_caretLine`, `exists_caretLine`: where a caret stands.
-/

namespace PullDiagnostics

namespace Text

/-! ### The lines of a text -/

/-- Whether a text holds neither a line feed nor a carriage return. -/
structure IsLine (line : List Char) : Prop where
  no_feed : '\n' ∉ line
  no_return : '\r' ∉ line

/-- Two texts joined are a line if both are. -/
theorem isLine_append {a b : List Char} : IsLine (a ++ b) ↔ IsLine a ∧ IsLine b := by
  constructor
  · rintro ⟨hfeed, hreturn⟩
    rw [List.mem_append, not_or] at hfeed hreturn
    exact ⟨⟨hfeed.1, hreturn.1⟩, ⟨hfeed.2, hreturn.2⟩⟩
  · rintro ⟨ha, hb⟩
    exact ⟨by simp [ha.no_feed, hb.no_feed], by simp [ha.no_return, hb.no_return]⟩

/-- A character that ends no line may be put in front of one. -/
theorem IsLine.cons {c : Char} {rest : List Char} (h : IsLine rest) (hfeed : '\n' ≠ c)
    (hreturn : '\r' ≠ c) : IsLine (c :: rest) :=
  ⟨by simp [hfeed, h.no_feed], by simp [hreturn, h.no_return]⟩

/-- Characters of a kind that no end of a line is of make no line end. -/
theorem isLine_of_forall {line : List Char} {p : Char → Bool} (h : ∀ c ∈ line, p c = true)
    (hfeed : p '\n' = false) (hreturn : p '\r' = false) : IsLine line :=
  ⟨fun hmem => by simp [h _ hmem] at hfeed, fun hmem => by simp [h _ hmem] at hreturn⟩

/-- A line has no carriage return to drop. -/
theorem dropReturn_of_isLine {line : List Char} (h : IsLine line) :
    dropReturn '\r' line = line := by
  unfold dropReturn
  split
  next hlast => exact absurd (List.mem_of_getLast? hlast) h.no_return
  next => rfl

/-- Lines with line feeds between them are read back, but for an empty one at the end. -/
theorem lines_intercalate {ls : List (List Char)} {last : List Char}
    (hls : ∀ line ∈ ls, IsLine line) (hlast : IsLine last) :
    lines (List.intercalate ['\n'] (ls ++ [last])) = ls ++ if last.isEmpty then [] else [last] := by
  have hkept : ls.map (dropReturn '\r') = ls :=
    (List.map_congr_left fun line hline => dropReturn_of_isLine (hls line hline)).trans
      (List.map_id ls)
  rw [lines_intercalate_of_not_mem (fun line hline => (hls line hline).no_feed) hlast.no_feed,
    hkept, lastLine]

/-- Lines with a line feed behind each are read back. -/
theorem lines_flatMap {ls : List (List Char)} (hls : ∀ line ∈ ls, IsLine line) :
    lines (ls.flatMap (· ++ ['\n'])) = ls := by
  have htext : ls.flatMap (· ++ ['\n']) = List.intercalate ['\n'] (ls ++ [[]]) := by
    induction ls with
    | nil => rfl
    | cons line rest ih =>
        rw [List.flatMap_cons, ih fun other hother => hls other (List.mem_cons_of_mem line hother)]
        cases rest <;> simp [List.intercalate_cons_cons]
  rw [htext, lines_intercalate hls ⟨by simp, by simp⟩]
  simp

end Text

namespace Report

open Text (IsLine)

/-! ### Headers -/

/-- The first colon comes first. -/
theorem colonSplits_append {before : List Char} (h : ':' ∉ before) (after : List Char) :
    colonSplits (before ++ ':' :: after) =
      (before, after) ::
        (colonSplits after).map fun split => (before ++ ':' :: split.1, split.2) := by
  induction before with
  | nil => simp [colonSplits]
  | cons c rest ih =>
      rw [List.mem_cons, not_or] at h
      simp [colonSplits, ih h.2, Ne.symm h.1]

/-- A line without a colon is no header. -/
theorem header?_eq_none {line : List Char} (h : ':' ∉ line) : header? line = none := by
  have hsplits : colonSplits line = [] := by
    induction line with
    | nil => rfl
    | cons c rest ih =>
        rw [List.mem_cons, not_or] at h
        simp [colonSplits, ih h.2, Ne.symm h.1]
  simp [header?, hsplits]

/-- A path with an extension is not blank. -/
theorem isBlankText_of_extension? {path : List Char}
    (h : (⟨Utf8.encode path⟩ : FilePath).extension?.isSome = true) :
    Text.isBlankText path = false := by
  obtain ⟨c, hc, hdot⟩ :=
    Utf8.exists_mem_of_mem_encode (by decide) (FilePath.dot_mem_of_extension? h)
  refine Bool.eq_false_iff.mpr fun hblank => ?_
  have hc : Text.isBlank c = true := List.all_eq_true.mp hblank c hc
  rw [Text.isBlank, hdot] at hc
  exact absurd hc (by decide)

/-- A path, a line number and more make a header. -/
theorem header?_eq_some {path : List Char} (hpath : ':' ∉ path)
    (hextension : (⟨Utf8.encode path⟩ : FilePath).extension?.isSome = true) {n : ℕ}
    (hn : n ≤ maxLine) (body : List Char) :
    header? (path ++ ':' :: (Nat.toDigits 10 n ++ ':' :: body)) =
      some ⟨⟨Utf8.encode path⟩, n, (classify (Text.trimStart body)).1,
        (classify (Text.trimStart body)).2.1, (classify (Text.trimStart body)).2.2⟩ := by
  have hdigits : (Nat.toDigits 10 n ++ ':' :: body).takeWhile Text.isDigit =
      Nat.toDigits 10 n := by
    rw [List.takeWhile_append_of_pos fun c => Text.isDigit_of_mem_toDigits]
    simp [Text.isDigit]
  have hblank : Text.isBlankText path = false := isBlankText_of_extension? hextension
  have hnone : (⟨Utf8.encode path⟩ : FilePath).extension?.isNone = false := by
    rw [Option.isNone_eq_false_iff, hextension]
  have hempty : (Nat.toDigits 10 n).isEmpty = false := by
    simp [Nat.toDigits_ne_nil]
  have hheader : headerAt? path (Nat.toDigits 10 n ++ ':' :: body) =
      some ⟨⟨Utf8.encode path⟩, n, (classify (Text.trimStart body)).1,
        (classify (Text.trimStart body)).2.1, (classify (Text.trimStart body)).2.2⟩ := by
    simp [headerAt?, hdigits, Text.numeral_toDigits, hblank, hnone, hempty, Nat.not_lt.mpr hn]
  simp only [header?, colonSplits_append hpath, List.findSome?_cons, hheader]

/-! ### Lines that are nothing by themselves -/

/-- Whether a line neither opens a finding nor sums up. -/
structure IsPlain (line : List Char) : Prop where
  no_header : header? line = none
  no_summary : isSummary line = false

/-- A blank line is nothing by itself. -/
theorem isPlain_of_blank {line : List Char} (h : Text.isBlankText line = true) : IsPlain line where
  no_header := header?_eq_none fun hcolon =>
    absurd (List.all_eq_true.mp h ':' hcolon) (by decide)
  no_summary := by
    rw [isSummary, Text.trim_of_isBlankText h]
    rfl

/-- A margin of spaces and tabs. -/
def IsMargin (margin : List Char) : Prop :=
  ∀ c ∈ margin, c = ' ' ∨ c = '\t'

/-- Spaces are a margin. -/
theorem isMargin_replicate (n : ℕ) : IsMargin (List.replicate n ' ') :=
  fun _ hc => .inl (List.eq_of_mem_replicate hc)

/-- A caret under a margin. -/
def caretLine (margin : List Char) : List Char :=
  margin ++ ['^']

section Caret

variable {margin : List Char}

/-- A margin is made of blanks. -/
theorem IsMargin.isBlank (h : IsMargin margin) {c : Char} (hc : c ∈ margin) :
    Text.isBlank c = true := by
  rcases h c hc with rfl | rfl <;> decide

/-- Only the caret is left of its line when that is trimmed. -/
theorem IsMargin.trim_caretLine (h : IsMargin margin) {tail : List Char}
    (htail : Text.isBlankText tail = true) : Text.trim (caretLine margin ++ tail) = ['^'] := by
  have hstart : Text.trimStart (caretLine margin ++ tail) = '^' :: tail := by
    rw [caretLine, List.append_assoc, Text.trimStart,
      List.dropWhile_append_of_pos fun c => h.isBlank]
    exact Text.trimStart_cons (by decide) tail
  have hblank : ∀ c ∈ tail.reverse, Text.isBlank c = true := fun c hc =>
    List.all_eq_true.mp htail c (List.mem_reverse.mp hc)
  rw [Text.trim, hstart, Text.trimEnd, List.reverse_cons, List.dropWhile_append_of_pos hblank]
  decide

/-- A caret is nothing by itself, with blanks behind it as well. -/
theorem isPlain_caretLine_append (h : IsMargin margin) {tail : List Char}
    (htail : Text.isBlankText tail = true) : IsPlain (caretLine margin ++ tail) where
  no_header := header?_eq_none fun hcolon => by
    rcases List.mem_append.mp hcolon with hcolon | hcolon
    · rcases List.mem_append.mp hcolon with hcolon | hcolon
      · exact absurd (h.isBlank hcolon) (by decide)
      · exact absurd hcolon (by decide)
    · exact absurd (List.all_eq_true.mp htail ':' hcolon) (by decide)
  no_summary := by
    rw [isSummary, h.trim_caretLine htail]
    decide

/-- A caret under a margin is nothing by itself. -/
theorem isPlain_caretLine (h : IsMargin margin) : IsPlain (caretLine margin) := by
  have hnothing : Text.isBlankText [] = true := rfl
  simpa using isPlain_caretLine_append h hnothing

/-- The column of a caret is counted from one, behind its margin. -/
theorem caretColumn?_caretLine (h : IsMargin margin) (hlength : margin.length < maxColumn) :
    caretColumn? (caretLine margin) = some (margin.length + 1) := by
  have hall : (margin.reverse.all fun c => c = ' ' || c = '\t') = true :=
    List.all_eq_true.mpr fun c hc => by simpa using h c (List.mem_reverse.mp hc)
  rw [caretColumn?, caretLine, Text.trimEnd_concat (by decide), List.reverse_append]
  simp only [List.reverse_singleton, List.singleton_append, hall, List.length_reverse, hlength,
    decide_true, Bool.and_self, if_true]

/-- A line with a column is a caret under a margin, with blanks behind it. -/
theorem exists_caretLine {line : List Char} {column : ℕ} (h : caretColumn? line = some column) :
    ∃ margin tail, IsMargin margin ∧ Text.isBlankText tail = true ∧
      line = caretLine margin ++ tail ∧ column = margin.length + 1 := by
  unfold caretColumn? at h
  split at h
  next margin heq =>
    split at h
    next hmargin =>
      rw [Bool.and_eq_true, List.all_eq_true] at hmargin
      have htrimmed : Text.trimEnd line = margin.reverse ++ ['^'] := by
        rw [← List.reverse_reverse (Text.trimEnd line), heq, List.reverse_cons]
      have hline : line = Text.trimEnd line ++ (line.reverse.takeWhile Text.isBlank).reverse := by
        rw [Text.trimEnd, ← List.reverse_append, List.takeWhile_append_dropWhile,
          List.reverse_reverse]
      refine ⟨margin.reverse, (line.reverse.takeWhile Text.isBlank).reverse, ?_, ?_, ?_, ?_⟩
      · intro c hc
        simpa using hmargin.1 c (List.mem_reverse.mp hc)
      · rw [Text.isBlankText, List.all_reverse]
        exact List.all_takeWhile
      · rw [caretLine, ← htrimmed, ← hline]
      · rw [List.length_reverse]
        exact (Option.some.inj h).symm
    next => cases h
  next => cases h

/-- A line with a caret is not blank. -/
theorem not_isBlankText_of_caretColumn? {line : List Char} {column : ℕ}
    (h : caretColumn? line = some column) : Text.isBlankText line = false := by
  obtain ⟨margin, tail, -, -, rfl, -⟩ := exists_caretLine h
  simp [Text.isBlankText, caretLine, Text.isBlank]

/-- A blank line has no caret. -/
theorem caretColumn?_of_isBlankText {line : List Char} (h : Text.isBlankText line = true) :
    caretColumn? line = none :=
  Option.eq_none_iff_forall_ne_some.mpr fun column hcaret => by
    simp [not_isBlankText_of_caretColumn? hcaret] at h

/-- A line that holds nothing but a caret neither opens a finding nor sums up. -/
theorem isPlain_of_caretColumn? {line : List Char} {column : ℕ}
    (h : caretColumn? line = some column) : IsPlain line := by
  obtain ⟨margin, tail, hmargin, htail, rfl, -⟩ := exists_caretLine h
  exact isPlain_caretLine_append hmargin htail

end Caret

/-! ### Lines that sum up -/

/-- A number, and what there is that many of. -/
def summaryLine (count noun : List Char) : List Char :=
  count ++ ' ' :: noun

section Summary

variable {count noun : List Char}

/-- A line that sums up is no header. -/
theorem header?_summaryLine (hcount : ∀ c ∈ count, Text.isDigit c = true)
    (hnoun : noun ∈ summaryNouns) : header? (summaryLine count noun) = none := by
  refine header?_eq_none fun hcolon => ?_
  rcases List.mem_append.mp hcolon with hcolon | hcolon
  · exact absurd (hcount ':' hcolon) (by decide)
  · rcases List.mem_cons.mp hcolon with hcolon | hcolon
    · exact absurd hcolon (by decide)
    · have hnouns : ∀ noun ∈ summaryNouns, ':' ∉ noun := by decide
      exact hnouns noun hnoun hcolon

/-- A number and its noun sum up. -/
theorem isSummary_summaryLine (hne : count ≠ []) (hcount : ∀ c ∈ count, Text.isDigit c = true)
    (hnoun : noun ∈ summaryNouns) : isSummary (summaryLine count noun) = true := by
  have htrim : Text.trim (summaryLine count noun) = summaryLine count noun := by
    obtain ⟨first, digits, rfl⟩ := List.exists_cons_of_ne_nil hne
    have hnouns : ∀ noun ∈ summaryNouns, noun = noun.dropLast ++ [noun.getLastD ' '] ∧
        Text.isBlank (noun.getLastD ' ') = false := by decide
    obtain ⟨hnoun, hlast⟩ := hnouns noun hnoun
    have hfirst : Text.isBlank first = false :=
      Text.isBlank_of_isDigit (hcount first (List.mem_cons_self ..))
    have hends : summaryLine (first :: digits) noun =
        (first :: digits ++ ' ' :: noun.dropLast) ++ [noun.getLastD ' '] := by
      rw [List.append_assoc, List.cons_append (a := ' '), ← hnoun, summaryLine]
    have hstart : Text.trimStart (summaryLine (first :: digits) noun) =
        summaryLine (first :: digits) noun := Text.trimStart_cons hfirst _
    rw [Text.trim, hstart, hends, Text.trimEnd_concat hlast]
  have hsplit : Text.splitOnce ' ' (summaryLine count noun) = some (count, noun) :=
    Text.splitOnce_append (fun hblank => absurd (hcount ' ' hblank) (by decide)) noun
  simp only [isSummary, htrim, hsplit]
  simp [hne, hnoun, List.all_eq_true.mpr hcount]

end Summary

end Report

end PullDiagnostics
