import Mathlib.Data.List.Forall2
import PullDiagnostics.Proofs.Report.Details
import PullDiagnostics.Proofs.Text.LineEnds

/-!
# Segments of a report

Any text falls into segments, one for each header: a segment starts with its header line and runs
to just before the next one. What stands in front of the first header says nothing. A segment is
read by itself, as one finding, whatever stands around it; nothing else is read, and nothing is read
twice.

## Main results

* `readLines_of_no_header`: the lines below a header, up to the next one, make one finding.
* `forall₂_readLines`: stretches of lines with a header on top are read one by one.
* `parse_segments`: what a text is read as, segment by segment.
-/

namespace PullDiagnostics.Report

/-! ### Cutting in front of some elements -/

section Groups

variable {α : Type} {opens : α → Bool}

/-- Cuts a list in front of each element that opens a group: what stands in front of the first one,
and the groups. -/
def groups (opens : α → Bool) : List α → List α × List (List α)
  | [] => ([], [])
  | a :: rest =>
      let (front, others) := groups opens rest
      if opens a then ([], (a :: front) :: others) else (a :: front, others)

/-- An element that opens a group takes those in front of the next one into it. -/
theorem groups_cons_of_opens {a : α} (h : opens a = true) (rest : List α) :
    groups opens (a :: rest) = ([], (a :: (groups opens rest).1) :: (groups opens rest).2) :=
  if_pos h

/-- An element that opens none stands in front of the first group. -/
theorem groups_cons_of_not_opens {a : α} (h : opens a = false) (rest : List α) :
    groups opens (a :: rest) = (a :: (groups opens rest).1, (groups opens rest).2) := by
  rw [groups, h]
  rfl

/-- Nothing is lost at a cut. -/
theorem append_flatten_groups (opens : α → Bool) (l : List α) :
    (groups opens l).1 ++ (groups opens l).2.flatten = l := by
  induction l with
  | nil => rfl
  | cons a rest ih =>
      cases h : opens a with
      | true =>
          rw [groups_cons_of_opens h, List.flatten_cons, List.nil_append, List.cons_append, ih]
      | false => rw [groups_cons_of_not_opens h, List.cons_append, ih]

/-- Nothing in front of the first group opens one. -/
theorem not_opens_of_mem_front {l : List α} {a : α} (ha : a ∈ (groups opens l).1) :
    opens a = false := by
  induction l with
  | nil => cases ha
  | cons b rest ih =>
      cases h : opens b with
      | true =>
          rw [groups_cons_of_opens h] at ha
          cases ha
      | false =>
          rw [groups_cons_of_not_opens h] at ha
          rcases List.mem_cons.mp ha with rfl | ha
          · exact h
          · exact ih ha

/-- A group has one element that opens it, and that stands first. -/
theorem exists_of_mem_groups {l : List α} {group : List α} (hgroup : group ∈ (groups opens l).2) :
    ∃ a rest, group = a :: rest ∧ opens a = true ∧ ∀ b ∈ rest, opens b = false := by
  induction l with
  | nil => cases hgroup
  | cons a rest ih =>
      cases h : opens a with
      | true =>
          rw [groups_cons_of_opens h] at hgroup
          rcases List.mem_cons.mp hgroup with rfl | hgroup
          · exact ⟨a, _, rfl, h, fun b => not_opens_of_mem_front⟩
          · exact ih hgroup
      | false =>
          rw [groups_cons_of_not_opens h] at hgroup
          exact ih hgroup

end Groups

/-- What each element is read as makes up what they all are read as. -/
theorem flatMap_of_forall₂ {α β : Type} {read : α → List β} {as : List α} {bs : List β}
    (h : List.Forall₂ (fun a b => read a = [b]) as bs) : as.flatMap read = bs := by
  induction h with
  | nil => rfl
  | cons hread _ ih => rw [List.flatMap_cons, hread, ih, List.singleton_append]

/-! ### The lines below a header -/

/-- The lines above the first one that sums up. -/
def upToSummary (ls : List (List Char)) : List (List Char) :=
  ls.takeWhile (!isSummary ·)

/-- The lines below a header, up to the next one, make one finding. -/
theorem readLines_of_no_header {ls : List (List Char)} (hls : ∀ line ∈ ls, header? line = none)
    {rest : List (List Char)} (hrest : Closes rest) (d : Draft) :
    readLines (some d) (ls ++ rest) =
      (d.taken (upToSummary ls)).finish :: readLines none rest := by
  have hplain : ∀ line ∈ upToSummary ls, IsPlain line := by
    intro line hline
    exact ⟨hls line (List.takeWhile_subset _ hline), by simpa using List.mem_takeWhile_imp hline⟩
  have hbehind : ∀ line ∈ ls.dropWhile (!isSummary ·), header? line = none := fun line hline =>
    hls line (List.dropWhile_subset _ hline)
  have hcloses : Closes (ls.dropWhile (!isSummary ·) ++ rest) := by
    cases hdrop : ls.dropWhile (!isSummary ·) with
    | nil => exact hrest
    | cons line others =>
        rw [hdrop] at hbehind
        have hsummary : isSummary line = true := by
          have hne : ls.dropWhile (!isSummary ·) ≠ [] := by simp [hdrop]
          simpa [hdrop] using List.head_dropWhile_not (!isSummary ·) hne
        exact closes_of_summary (hbehind line (List.mem_cons_self ..)) hsummary _
  calc readLines (some d) (ls ++ rest)
      = readLines (some d) (upToSummary ls ++ (ls.dropWhile (!isSummary ·) ++ rest)) := by
        rw [← List.append_assoc, upToSummary, List.takeWhile_append_dropWhile]
    _ = (d.taken (upToSummary ls)).finish :: readLines none (ls.dropWhile (!isSummary ·) ++ rest) :=
        readLines_append hplain hcloses d
    _ = (d.taken (upToSummary ls)).finish :: readLines none rest := by
        rw [readLines_none_append hbehind]

/-! ### What a finding says -/

/-- Whether a finding says what a header does. -/
structure Header.Opens (h : Header) (f : Finding) : Prop where
  path : f.path = h.path
  line : f.line = some h.line
  severity : f.severity = h.severity
  code : f.code = h.code.map String.ofList
  no_endColumn : f.endColumn = none

/-- Whether a finding is the one that a header opens with some lines below it. Its column is that
of the first caret, if what stands above that caret allows one; its message is that of the header
with details behind it, both from the lines above the first one that sums up. -/
structure Header.OpensWith (h : Header) (below : List (List Char)) (f : Finding) : Prop
    extends Header.Opens h f where
  column_iff : ∀ column, f.column = some column ↔
    ∃ above line rest, upToSummary below = above ++ line :: rest ∧
      caretColumn? line = some column ∧ Draft.AllowsCaret above
  message : ∃ kept, Draft.Among kept (upToSummary below) ∧
    f.message = String.ofList (List.intercalate ['\n'] (h.message :: kept.map Text.trim))

/-- The draft of a header becomes the finding that the header opens. -/
theorem Header.opensWith_finish (h : Header) (below : List (List Char)) :
    h.OpensWith below (Draft.taken { header := h } (upToSummary below)).finish := by
  have hheader := Draft.header_taken { header := h } (upToSummary below)
  obtain ⟨kept, hkept, hsettled⟩ := (Draft.keeps_new h).taken (upToSummary below)
  refine ⟨⟨congrArg Header.path hheader, ?_, congrArg Header.severity hheader, ?_, rfl⟩,
    fun column => ?_, kept, hkept, ?_⟩
  · rw [Draft.finish, hheader]
  · rw [Draft.finish, hheader]
  · rw [← Draft.below_taken_iff h, Draft.finish]
    cases (Draft.taken { header := h } (upToSummary below)).below <;> simp
  · rw [Draft.finish, hheader, hsettled]

/-! ### Stretches of lines with a header on top -/

/-- Whether some lines are a header and lines that are none. -/
structure IsHeaded (ls : List (List Char)) (h : Header) (below : List (List Char)) : Prop where
  exists_opening : ∃ opening, ls = opening :: below ∧ header? opening = some h
  below : ∀ line ∈ below, header? line = none

/-- Whether some lines are read as one finding, which their header opens. -/
def IsFoundIn (ls : List (List Char)) (f : Finding) : Prop :=
  ∃ h below, IsHeaded ls h below ∧ readLines none ls = [f] ∧ h.OpensWith below f

variable {ls : List (List Char)} {stretches : List (List (List Char))}

/-- A stretch has one header, which is on top. -/
theorem IsHeaded.filterMap_header? {h : Header} {below : List (List Char)}
    (hls : IsHeaded ls h below) : ls.filterMap header? = [h] := by
  obtain ⟨⟨opening, rfl, hopening⟩, hbelow⟩ := hls
  rw [List.filterMap_cons_some hopening, List.filterMap_eq_nil_iff.mpr hbelow]

theorem closes_flatten (hstretches : ∀ ls ∈ stretches, ∃ h below, IsHeaded ls h below) :
    Closes stretches.flatten := by
  cases stretches with
  | nil => exact closes_nil
  | cons ls others =>
      obtain ⟨h, below, ⟨opening, rfl, hopening⟩, -⟩ := hstretches ls (List.mem_cons_self ..)
      exact closes_of_header hopening _

/-- A stretch is read as its finding, and what comes next is read as if it came first. -/
theorem IsHeaded.readLines_append {h : Header} {below : List (List Char)}
    (hls : IsHeaded ls h below) {rest : List (List Char)} (hrest : Closes rest) :
    readLines none (ls ++ rest) =
      (Draft.taken { header := h } (upToSummary below)).finish :: readLines none rest := by
  obtain ⟨⟨opening, rfl, hopening⟩, hbelow⟩ := hls
  rw [← readLines_of_no_header hbelow hrest]
  simp [readLines, hopening]

/-- **One by one.** Each stretch is read as one finding, whatever stands around it. -/
theorem forall₂_readLines (hstretches : ∀ ls ∈ stretches, ∃ h below, IsHeaded ls h below) :
    List.Forall₂ IsFoundIn stretches (readLines none stretches.flatten) := by
  induction stretches with
  | nil => exact .nil
  | cons ls others ih =>
      obtain ⟨⟨h, below, hls⟩, hothers⟩ := List.forall_mem_cons.mp hstretches
      have halone := hls.readLines_append closes_nil
      rw [List.append_nil] at halone
      rw [List.flatten_cons, hls.readLines_append (closes_flatten hothers)]
      exact .cons ⟨h, below, hls, halone, h.opensWith_finish below⟩ (ih hothers)

/-- Findings come in the order of the headers that open them. -/
theorem forall₂_opens {findings : List Finding} (h : List.Forall₂ IsFoundIn stretches findings) :
    List.Forall₂ Header.Opens (stretches.flatten.filterMap header?) findings := by
  induction h with
  | nil => exact .nil
  | cons hfound _ ih =>
      obtain ⟨h, below, hheaded, -, hopens⟩ := hfound
      rw [List.flatten_cons, List.filterMap_append, hheaded.filterMap_header?]
      exact .cons hopens.toOpens ih

/-! ### Segments -/

/-- Whether a line, given with its end, is a header. -/
def isOpening (line : List Char) : Bool :=
  (header? (Text.withoutEnd line)).isSome

/-- The text in front of the first header line. -/
def preamble (text : List Char) : List Char :=
  (groups isOpening (Text.linesWithEnds text)).1.flatten

/-- The segments of a text: each starts with a header line and runs to just before the next. -/
def segments (text : List Char) : List (List Char) :=
  (groups isOpening (Text.linesWithEnds text)).2.map List.flatten

/-- Whether a text is cut at its header lines. -/
structure IsCut (text front : List Char) (segments : List (List Char)) : Prop where
  text_eq : text = front ++ segments.flatten
  lines_eq : Text.lines text = Text.lines front ++ segments.flatMap Text.lines
  front : ∀ line ∈ Text.lines front, header? line = none
  headed : ∀ segment ∈ segments, ∃ h below, IsHeaded (Text.lines segment) h below

/-- A text is cut into its preamble and its segments. -/
theorem isCut_segments (text : List Char) : IsCut text (preamble text) (segments text) := by
  have hflatten := append_flatten_groups isOpening (Text.linesWithEnds text)
  have hlined : Text.IsLined ((groups isOpening (Text.linesWithEnds text)).1 ++
      (groups isOpening (Text.linesWithEnds text)).2.flatten) :=
    hflatten.symm ▸ Text.isLined_linesWithEnds text
  obtain ⟨hfront, hgroups⟩ := hlined.of_append
  have hlines : ∀ group ∈ (groups isOpening (Text.linesWithEnds text)).2,
      Text.lines group.flatten = group.map Text.withoutEnd := fun group hgroup =>
    (hgroups.of_mem_flatten hgroup).lines_flatten
  refine ⟨?_, ?_, ?_, ?_⟩
  · rw [preamble, segments, ← List.flatten_flatten, ← List.flatten_append, hflatten,
      Text.flatten_linesWithEnds]
  · rw [Text.lines_eq_map_withoutEnd, preamble, hfront.lines_flatten, segments, List.flatMap_map,
      List.flatMap_congr hlines, List.flatMap_def, ← List.map_flatten, ← List.map_append, hflatten]
  · intro line hline
    rw [preamble, hfront.lines_flatten] at hline
    obtain ⟨whole, hwhole, rfl⟩ := List.mem_map.mp hline
    have hnot : isOpening whole = false := not_opens_of_mem_front hwhole
    exact Option.isNone_iff_eq_none.mp (Option.isSome_eq_false_iff.mp hnot)
  · intro segment hsegment
    obtain ⟨group, hgroup, rfl⟩ := List.mem_map.mp hsegment
    obtain ⟨first, rest, heq, hfirst, hrest⟩ := exists_of_mem_groups hgroup
    obtain ⟨h, hopening⟩ := Option.isSome_iff_exists.mp hfirst
    refine ⟨h, rest.map Text.withoutEnd, ⟨Text.withoutEnd first, ?_, hopening⟩, ?_⟩
    · rw [hlines group hgroup, heq, List.map_cons]
    · intro line hline
      obtain ⟨whole, hwhole, rfl⟩ := List.mem_map.mp hline
      exact Option.isNone_iff_eq_none.mp (Option.isSome_eq_false_iff.mp (hrest whole hwhole))

/-- The stretches of lines that the segments hold are read one by one. -/
theorem forall₂_parse (text : List Char) :
    List.Forall₂ IsFoundIn ((segments text).map Text.lines) (parse text) := by
  have hcut := isCut_segments text
  have hparse : parse text = readLines none ((segments text).map Text.lines).flatten := by
    rw [parse, hcut.lines_eq, readLines_none_append hcut.front, List.flatMap_def]
  rw [hparse]
  exact forall₂_readLines (List.forall_mem_map.mpr hcut.headed)

/-- There is one finding for each header. -/
theorem forall₂_opens_parse (text : List Char) :
    List.Forall₂ Header.Opens ((Text.lines text).filterMap header?) (parse text) := by
  have hcut := isCut_segments text
  have hopens := forall₂_opens (forall₂_parse text)
  rwa [hcut.lines_eq, List.filterMap_append, List.filterMap_eq_nil_iff.mpr hcut.front,
    List.nil_append, List.flatMap_def]

/-- **Reading is local.** Any text whatever is read segment by segment, in order: each segment makes
one finding, by itself as among the others, which is the one that its header opens with the lines
below it. -/
theorem parse_segments (text : List Char) :
    IsCut text (preamble text) (segments text) ∧
      parse text = (segments text).flatMap parse ∧
      List.Forall₂ Header.Opens ((Text.lines text).filterMap header?) (parse text) ∧
      List.Forall₂ (fun segment f => ∃ h below, IsHeaded (Text.lines segment) h below ∧
        parse segment = [f] ∧ h.OpensWith below f) (segments text) (parse text) := by
  have hfound := forall₂_parse text
  rw [List.forall₂_map_left_iff] at hfound
  have halone : List.Forall₂ (fun segment f => parse segment = [f]) (segments text) (parse text) :=
    hfound.imp fun segment f => fun ⟨_, _, _, hsegment, _⟩ => hsegment
  exact ⟨isCut_segments text, (flatMap_of_forall₂ halone).symm, forall₂_opens_parse text, hfound⟩

end PullDiagnostics.Report
