import PullDiagnostics.Proofs.Report.Segments

/-!
# Echoes

A line of source with a caret under it gives the column of the finding above, and what follows are
details of the finding. But the source can say anything, and each line of a report is looked at as
a header and as a line that sums up before it is looked at as anything else, be it indented or not.
So the finding is read as it was meant exactly if no echo and no detail looks like one of these.

## Main results

* `Shows`: a report of one finding, as it was meant.
* `Shows.parse_of_isPlain`, `Shows.isPlain_of_parse_eq`: plain lines are read as they were meant,
  and only they.
* `Shows.parse_echo_iff`: both together.
* `parse_placeEcho`: source that opens a finding of its own.
-/

namespace PullDiagnostics.Report

open Draft (IsDetail)

/-! ### Messages -/

/-- Texts joined with a character between them are as long as they are together, with one more
for each text after the first. -/
theorem length_intercalate_cons (c : Char) (first : List Char) (others : List (List Char)) :
    (List.intercalate [c] (first :: others)).length =
      first.length + (others.flatten.length + others.length) := by
  induction others generalizing first with
  | nil => simp
  | cons next rest ih =>
      rw [List.intercalate_cons_cons, List.length_append, List.length_append, ih,
        List.length_singleton, List.flatten_cons, List.length_append, List.length_cons]
      omega

/-- A message tells how many of some details stand in it. -/
theorem eq_nil_of_intercalate_eq {first : List Char} {kept dropped : List (List Char)}
    (h : List.intercalate ['\n'] (first :: kept) =
      List.intercalate ['\n'] (first :: (kept ++ dropped))) : dropped = [] := by
  have hlength := congrArg List.length h
  rw [length_intercalate_cons, length_intercalate_cons, List.flatten_append, List.length_append,
    List.length_append] at hlength
  exact List.length_eq_zero_iff.mp (by omega)

/-! ### A header, an echo, a caret and details -/

/-- The finding that a header means, with a column and details. -/
def Header.finding (h : Header) (column : ℕ) (details : List (List Char)) : Finding where
  path := h.path
  line := some h.line
  column := some column
  severity := h.severity
  message := String.ofList (List.intercalate ['\n'] (h.message :: details.map Text.trim))
  code := h.code.map String.ofList

/-- Whether a text shows one finding: a header line, then a line of source that is indented and no
caret, then a caret in a column, and then details. -/
structure Shows (text headerLine echo caret : List Char) (details : List (List Char)) (h : Header)
    (column : ℕ) : Prop where
  lines_eq : Text.lines text = headerLine :: echo :: caret :: details
  header_eq : header? headerLine = some h
  echo_isDetail : IsDetail echo
  echo_no_caret : caretColumn? echo = none
  column_eq : caretColumn? caret = some column
  details_isDetail : ∀ line ∈ details, IsDetail line

variable {text headerLine echo caret : List Char} {details : List (List Char)} {h : Header}
  {column : ℕ}

/-- What a draft makes of an echo, a caret and details. -/
theorem finish_taken_echo (hecho : IsDetail echo) (hnone : caretColumn? echo = none)
    (hcaret : caretColumn? caret = some column) (hdetails : ∀ line ∈ details, IsDetail line) :
    (Draft.taken { header := h } (echo :: caret :: details)).finish = h.finding column details := by
  have hpush := Draft.push_of_isOpen (Draft.isOpen_new h) hecho.not_blank hnone
    (.inl hecho.indented)
  rw [Draft.taken_cons hpush, Draft.taken_cons (Draft.push_of_caretColumn? rfl hcaret),
    Draft.taken_details_of_caret rfl hdetails]
  rfl

namespace Shows

/-- Lines that look like nothing else are read as they were meant. -/
theorem parse_of_isPlain (hs : Shows text headerLine echo caret details h column)
    (hplain : ∀ line ∈ echo :: details, IsPlain line) :
    parse text = [h.finding column details] := by
  obtain ⟨hplainEcho, hplainDetails⟩ := List.forall_mem_cons.mp hplain
  have hbelow : ∀ line ∈ echo :: caret :: details, IsPlain line :=
    List.forall_mem_cons.mpr ⟨hplainEcho,
      List.forall_mem_cons.mpr ⟨isPlain_of_caretColumn? hs.column_eq, hplainDetails⟩⟩
  have hread := readLines_append hbelow closes_nil { header := h }
  have hfinish := finish_taken_echo (h := h) hs.echo_isDetail hs.echo_no_caret hs.column_eq
    hs.details_isDetail
  rw [List.append_nil, hfinish] at hread
  rw [parse, hs.lines_eq, readLines, hs.header_eq]
  exact hread

/-- If there is one finding only, there is one header only. -/
theorem header?_eq_none_of_parse_eq (hs : Shows text headerLine echo caret details h column)
    {f : Finding} (hparse : parse text = [f]) :
    ∀ line ∈ echo :: caret :: details, header? line = none := by
  have hcount := (forall₂_opens_parse text).length_eq
  rw [hparse, hs.lines_eq, List.filterMap_cons_some hs.header_eq, List.length_singleton,
    List.length_cons, Nat.add_eq_right, List.length_eq_zero_iff] at hcount
  exact List.filterMap_eq_nil_iff.mp hcount

/-- Lines that are read as they were meant look like nothing else. -/
theorem isPlain_of_parse_eq (hs : Shows text headerLine echo caret details h column)
    (hparse : parse text = [h.finding column details]) :
    ∀ line ∈ echo :: details, IsPlain line := by
  have hheaders := hs.header?_eq_none_of_parse_eq hparse
  have hread := readLines_of_no_header hheaders closes_nil { header := h }
  have hfinish : (Draft.taken { header := h } (upToSummary (echo :: caret :: details))).finish =
      h.finding column details := by
    rw [parse, hs.lines_eq, readLines, hs.header_eq] at hparse
    rw [List.append_nil] at hread
    exact List.head_eq_of_cons_eq (hread.symm.trans hparse)
  -- A line that sums up would cut off the caret or a detail.
  have hecho : isSummary echo = false := by
    refine Bool.eq_false_iff.mpr fun hsummary => ?_
    have hnothing : upToSummary (echo :: caret :: details) = [] := by
      simp [upToSummary, hsummary]
    rw [hnothing] at hfinish
    cases congrArg Finding.column hfinish
  have hdetails : ∀ line ∈ details, isSummary line = false := by
    have hup : upToSummary (echo :: caret :: details) =
        echo :: caret :: upToSummary details := by
      simp [upToSummary, hecho, (isPlain_of_caretColumn? hs.column_eq).no_summary]
    have hkept : ∀ line ∈ upToSummary details, IsDetail line := fun line hline =>
      hs.details_isDetail line (List.takeWhile_subset _ hline)
    rw [hup, finish_taken_echo hs.echo_isDetail hs.echo_no_caret hs.column_eq hkept] at hfinish
    have hmessage := String.ofList_injective (congrArg Finding.message hfinish)
    have hsplit : details.map Text.trim = (upToSummary details).map Text.trim ++
        (details.dropWhile (!isSummary ·)).map Text.trim := by
      rw [← List.map_append, upToSummary, List.takeWhile_append_dropWhile]
    rw [hsplit] at hmessage
    have hdrop := List.map_eq_nil_iff.mp (eq_nil_of_intercalate_eq hmessage)
    intro line hline
    simpa using List.dropWhile_eq_nil_iff.mp hdrop line hline
  refine List.forall_mem_cons.mpr ⟨⟨hheaders echo (List.mem_cons_self ..), hecho⟩, ?_⟩
  intro line hline
  have hmem : line ∈ echo :: caret :: details :=
    List.mem_cons_of_mem echo (List.mem_cons_of_mem caret hline)
  exact ⟨hheaders line hmem, hdetails line hline⟩

/-- **Echoes.** A header with an echo, a caret and details below it is read as the one finding that
it means exactly if neither the echo nor any detail is a header or a line that sums up. -/
theorem parse_echo_iff (hs : Shows text headerLine echo caret details h column) :
    parse text = [h.finding column details] ↔ ∀ line ∈ echo :: details, IsPlain line :=
  ⟨hs.isPlain_of_parse_eq, hs.parse_of_isPlain⟩

end Shows

/-! ### Source that says too much -/

/-- A header line. -/
def sampleHeaderLine : List Char :=
  "/ws/A.java:10: error: boom".toList

/-- What it says. -/
def sampleHeader : Header :=
  ⟨.ofString "/ws/A.java", 10, .error, "boom".toList, none⟩

/-- A caret in the ninth column. -/
def sampleCaret : List Char :=
  "        ^".toList

/-- A detail. -/
def sampleDetail : List Char :=
  "  symbol: x".toList

/-- The lines of a report of one finding, for a line of source. -/
def sampleLines (echo : List Char) : List (List Char) :=
  [sampleHeaderLine, echo, sampleCaret, sampleDetail]

/-- The text of the report. -/
def sampleEchoed (echo : List Char) : List Char :=
  (sampleLines echo).flatMap (· ++ ['\n'])

/-- The report has the four lines that it is made of. -/
theorem lines_sampleEchoed (echo : List Char) (h : Text.IsLine echo) :
    Text.lines (sampleEchoed echo) = sampleLines echo := by
  have hheader : Text.IsLine sampleHeaderLine := ⟨by decide, by decide⟩
  have hcaret : Text.IsLine sampleCaret := ⟨by decide, by decide⟩
  have hdetail : Text.IsLine sampleDetail := ⟨by decide, by decide⟩
  refine Text.lines_flatMap ?_
  simp [sampleLines, hheader, h, hcaret, hdetail]

/-- The report shows one finding, if the line of source does not look like a caret. -/
theorem shows_sampleEchoed (echo : List Char) (hline : Text.IsLine echo) (hecho : IsDetail echo)
    (hnone : caretColumn? echo = none) :
    Shows (sampleEchoed echo) sampleHeaderLine echo sampleCaret [sampleDetail] sampleHeader 9 where
  lines_eq := lines_sampleEchoed echo hline
  header_eq := by decide
  echo_isDetail := hecho
  echo_no_caret := hnone
  column_eq := by decide
  details_isDetail := List.forall_mem_singleton.mpr ⟨by decide, by decide⟩

/-- A call that logs a text. -/
def sampleEcho : List Char :=
  "    log(\"boom\");".toList

/-- A call that logs a text with a place in it. -/
def placeEcho : List Char :=
  "    log(\"B.java:3: x\");".toList

/-- A text without a place is shown for its column only. -/
theorem parse_sampleEcho :
    Shows (sampleEchoed sampleEcho) sampleHeaderLine sampleEcho sampleCaret [sampleDetail]
        sampleHeader 9 ∧
      (∀ line ∈ [sampleEcho, sampleDetail], IsPlain line) ∧
      parse (sampleEchoed sampleEcho) = [sampleHeader.finding 9 [sampleDetail]] := by
  have hshows := shows_sampleEchoed sampleEcho ⟨by decide, by decide⟩
    ⟨by decide, by decide⟩ (by decide)
  have hplain : ∀ line ∈ [sampleEcho, sampleDetail], IsPlain line := by
    rintro line (_ | ⟨_, _ | ⟨_, ⟨⟩⟩⟩) <;> exact ⟨by decide, by decide⟩
  exact ⟨hshows, hplain, hshows.parse_echo_iff.mpr hplain⟩

/-- The place that the source names is read as one of a finding of its own, which takes the caret
and the detail away from the finding that they belong to. -/
theorem parse_placeEcho :
    Shows (sampleEchoed placeEcho) sampleHeaderLine placeEcho sampleCaret [sampleDetail]
        sampleHeader 9 ∧
      parse (sampleEchoed placeEcho) =
        [{ path := .ofString "/ws/A.java", line := some 10, severity := .error, message := "boom" },
         { path := .ofString "    log(\"B.java", line := some 3, column := some 9
           severity := .other, message := "x\");\nsymbol: x" }] ∧
      parse (sampleEchoed placeEcho) ≠ [sampleHeader.finding 9 [sampleDetail]] := by
  have hshows := shows_sampleEchoed placeEcho ⟨by decide, by decide⟩
    ⟨by decide, by decide⟩ (by decide)
  have hparse : parse (sampleEchoed placeEcho) =
      [{ path := .ofString "/ws/A.java", line := some 10, severity := .error, message := "boom" },
       { path := .ofString "    log(\"B.java", line := some 3, column := some 9
         severity := .other, message := "x\");\nsymbol: x" }] := by
    rw [parse, hshows.lines_eq]
    decide
  refine ⟨hshows, hparse, ?_⟩
  rw [hparse]
  simp

end PullDiagnostics.Report
