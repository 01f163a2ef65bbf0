import Mathlib.Data.List.Forall2
import PullDiagnostics.Proofs.Report.Reading

/-!
# The grammar of reports

A report is a list of blocks with blank lines and lines that sum up around them. A block is a
header `path:line: kind: message` with details below it, and it may have a mark among them: a line
of source with a caret under its column. This module writes reports from blocks and shows that
each block is read as one finding, the one that it means.

A caret beyond the largest column is not seen. What stands above it is read as details then, but
the finding is still one, with all that its header says.

## Main results

* `Block.Valid.header?_headerLine`: the header of a block is read as what it says.
* `Block.Valid.finish_taken`: the lines below it make the finding that the block means.
* `readLines_blocks`: each block is read by itself.
* `parse_report`: a report is read as one finding for each block, in order.
-/

namespace PullDiagnostics.Report

open Text (IsLine)

/-! ### Blocks -/

/-- A line of source with a caret under it, and the details above. -/
structure Mark where
  above : List (List Char)
  echo : List Char
  margin : List Char

/-- What a report says of one finding. The details are those below the caret; if there is none,
they are all. -/
structure Block where
  path : List Char
  line : ℕ
  kind : List Char
  message : List Char
  mark : Option Mark := none
  details : List (List Char) := []

/-- Whether a line can be a detail: it is indented and not blank, and nothing else by itself. -/
structure IsDetailLine (line : List Char) : Prop extends Draft.IsDetail line, IsLine line,
    IsPlain line

/-- Whether a mark can be written. The source may stand without a margin only right below the
header, and no line above the caret is a caret itself. -/
structure Mark.Valid (m : Mark) : Prop where
  above : ∀ line ∈ m.above, IsDetailLine line
  above_no_caret : ∀ line ∈ m.above, caretColumn? line = none
  echo_isLine : IsLine m.echo
  echo_isPlain : IsPlain m.echo
  echo_not_blank : Text.isBlankText m.echo = false
  echo_no_caret : caretColumn? m.echo = none
  echo_indented : isIndented m.echo = true ∨ m.above = []
  margin : IsMargin m.margin

/-- Whether a block can be written. -/
structure Block.Valid (b : Block) : Prop where
  path_isLine : IsLine b.path
  path_no_colon : ':' ∉ b.path
  path_extension : (⟨Utf8.encode b.path⟩ : FilePath).extension?.isSome = true
  line_le : b.line ≤ maxLine
  kind_ne_nil : b.kind ≠ []
  kind_all : ∀ c ∈ b.kind, isKindChar c = true
  message_isLine : IsLine b.message
  message_head : ∀ c ∈ b.message.head?, Text.isBlank c = false
  mark : ∀ m ∈ b.mark, m.Valid
  details : ∀ line ∈ b.details, IsDetailLine line
  details_no_caret : b.mark = none → ∀ line ∈ b.details, caretColumn? line = none

/-- The lines of a mark. -/
def Mark.lines (m : Mark) : List (List Char) :=
  m.above ++ [m.echo, caretLine m.margin]

namespace Block

/-- The text after the line number of a header. -/
def body (b : Block) : List Char :=
  b.kind ++ ':' :: ' ' :: b.message

/-- The first line of a block. -/
def headerLine (b : Block) : List Char :=
  b.path ++ ':' :: (Nat.toDigits 10 b.line ++ ':' :: ' ' :: b.body)

/-- The lines below the header. -/
def below (b : Block) : List (List Char) :=
  (b.mark.map Mark.lines).getD [] ++ b.details

/-- The lines of a block. -/
def lines (b : Block) : List (List Char) :=
  b.headerLine :: b.below

/-! ### What a block means -/

/-- The kind in brackets that the message of a warning may start with, and what follows it. -/
def tag? (b : Block) : Option (List Char × List Char) :=
  if severityOf (b.kind.map Char.toLower) = .warning then splitTag b.message else none

/-- How grave a block is. -/
def severity (b : Block) : Severity :=
  match b.tag? with
  | some (tag, _) => if mandatoryKinds.contains tag then .mandatoryWarning else .warning
  | none => severityOf (b.kind.map Char.toLower)

/-- The message without its tag. -/
def text (b : Block) : List Char :=
  match b.tag? with
  | some (_, text) => Text.trimStart text
  | none => b.message

/-- What the header of a block says. -/
def header (b : Block) : Header where
  path := ⟨Utf8.encode b.path⟩
  line := b.line
  severity := b.severity
  message := b.text
  code := b.tag?.map (·.1)

/-- All details of a block, in order. -/
def allDetails (b : Block) : List (List Char) :=
  (b.mark.map Mark.above).getD [] ++ b.details

/-- The finding that a block means: the message goes on with the details, and the source is left
out. -/
def finding (b : Block) : Finding where
  path := b.header.path
  line := some b.line
  column := b.mark.map fun m => m.margin.length + 1
  severity := b.severity
  message := String.ofList (List.intercalate ['\n'] (b.text :: b.allDetails.map Text.trim))
  code := b.header.code.map String.ofList

/-- Whether a finding is that of a block. -/
structure FoundAs (b : Block) (f : Finding) : Prop where
  path_eq : f.path = b.finding.path
  line_eq : f.line = b.finding.line
  severity_eq : f.severity = b.finding.severity
  code_eq : f.code = b.finding.code
  eq_of_column_le : (∀ m ∈ b.mark, m.margin.length < maxColumn) → f = b.finding

end Block

/-! ### Headers -/

/-- A kind has no blanks in it. -/
theorem isBlank_of_isKindChar {c : Char} (h : isKindChar c = true) : Text.isBlank c = false := by
  rw [isKindChar, Bool.or_eq_true, Text.isAlpha_iff] at h
  have hbounds : (65 ≤ c.toNat ∧ c.toNat ≤ 90 ∨ 97 ≤ c.toNat ∧ c.toNat ≤ 122) ∨ c.toNat = 45 :=
    h.imp id fun hdash => by rw [of_decide_eq_true hdash]; rfl
  simp only [Text.isBlank, Bool.or_eq_false_iff, Bool.and_eq_false_iff, decide_eq_false_iff_not,
    beq_eq_false_iff_ne]
  omega

namespace Block.Valid

variable {b : Block}

/-- The message of a block starts with no blank of its own. -/
theorem trimStart_message (hb : b.Valid) : Text.trimStart (' ' :: b.message) = b.message := by
  have hblank : Text.isBlank ' ' = true := by decide
  cases hmessage : b.message with
  | nil => rfl
  | cons c rest =>
      have hc : Text.isBlank c = false := hb.message_head c (by simp [hmessage])
      simp [Text.trimStart, hblank, hc]

/-- Neither does the text after the line number. -/
theorem trimStart_body (hb : b.Valid) : Text.trimStart (' ' :: b.body) = b.body := by
  have hblank : Text.isBlank ' ' = true := by decide
  obtain ⟨c, rest, hkind⟩ := List.exists_cons_of_ne_nil hb.kind_ne_nil
  have hc : Text.isBlank c = false :=
    isBlank_of_isKindChar (hb.kind_all c (by simp [hkind]))
  simp [Text.trimStart, body, hkind, hblank, hc]

/-- The kind and the message of a block are read back, the kind in lower case. -/
theorem splitKind_body (hb : b.Valid) :
    splitKind b.body = (b.kind.map Char.toLower, b.message) := by
  have hcolon : ':' ∉ b.kind := fun h => absurd (hb.kind_all ':' h) (by decide)
  have hall : b.kind.all isKindChar = true := List.all_eq_true.mpr hb.kind_all
  have hempty : b.kind.isEmpty = false := by simp [hb.kind_ne_nil]
  simp [splitKind, body, Text.splitOnce_append hcolon, hall, hempty, hb.trimStart_message]

/-- The text after the line number says how grave the block is, its message and its tag. -/
theorem classify_body (hb : b.Valid) :
    classify b.body = (b.severity, b.text, b.tag?.map (·.1)) := by
  simp only [classify, hb.splitKind_body, Block.severity, Block.text, Block.tag?]
  cases severityOf (b.kind.map Char.toLower) with
  | warning => rcases splitTag b.message with _ | ⟨tag, text⟩ <;> rfl
  | error | mandatoryWarning | note | other => simp

/-- The header of a block is read as what it says. -/
theorem header?_headerLine (hb : b.Valid) : header? b.headerLine = some b.header := by
  rw [headerLine, header?_eq_some hb.path_no_colon hb.path_extension hb.line_le,
    hb.trimStart_body, hb.classify_body]
  rfl

end Block.Valid

/-! ### The lines of a block -/

/-- A caret under a margin stands on one line. -/
theorem IsMargin.isLine_caretLine {margin : List Char} (h : IsMargin margin) :
    IsLine (caretLine margin) := by
  have hmargin : IsLine margin :=
    Text.isLine_of_forall (p := fun c => c = ' ' || c = '\t') (fun c hc => by simpa using h c hc)
      rfl rfl
  exact Text.isLine_append.mpr ⟨hmargin, by decide, by decide⟩

namespace Mark.Valid

variable {m : Mark}

/-- A mark is written in lines. -/
theorem isLine (hm : m.Valid) : ∀ line ∈ m.lines, IsLine line := by
  intro line hline
  simp only [lines, List.mem_append, List.mem_cons, List.not_mem_nil, or_false] at hline
  rcases hline with hline | rfl | rfl
  · exact (hm.above line hline).toIsLine
  · exact hm.echo_isLine
  · exact hm.margin.isLine_caretLine

/-- No line of a mark opens a finding or sums up. -/
theorem isPlain (hm : m.Valid) : ∀ line ∈ m.lines, IsPlain line := by
  intro line hline
  simp only [lines, List.mem_append, List.mem_cons, List.not_mem_nil, or_false] at hline
  rcases hline with hline | rfl | rfl
  · exact (hm.above line hline).toIsPlain
  · exact hm.echo_isPlain
  · exact isPlain_caretLine hm.margin

end Mark.Valid

namespace Block.Valid

variable {b : Block}

/-- The header of a block stands on one line. -/
theorem isLine_headerLine (hb : b.Valid) : IsLine b.headerLine := by
  have hdigits : IsLine (Nat.toDigits 10 b.line) :=
    Text.isLine_of_forall (fun c => Text.isDigit_of_mem_toDigits) (by decide) (by decide)
  have hkind : IsLine b.kind := Text.isLine_of_forall hb.kind_all (by decide) (by decide)
  have hmessage : IsLine (':' :: ' ' :: b.message) :=
    (hb.message_isLine.cons (by decide) (by decide)).cons (by decide) (by decide)
  have hbody : IsLine (':' :: ' ' :: b.body) :=
    ((Text.isLine_append.mpr ⟨hkind, hmessage⟩).cons (by decide) (by decide)).cons
      (by decide) (by decide)
  have hline : IsLine (':' :: (Nat.toDigits 10 b.line ++ ':' :: ' ' :: b.body)) :=
    (Text.isLine_append.mpr ⟨hdigits, hbody⟩).cons (by decide) (by decide)
  exact Text.isLine_append.mpr ⟨hb.path_isLine, hline⟩

/-- Below the header, a line is one of the mark or a detail. -/
theorem mem_below (hb : b.Valid) {line : List Char} (h : line ∈ b.below) :
    (∃ m : Mark, m.Valid ∧ line ∈ m.lines) ∨ IsDetailLine line := by
  rcases List.mem_append.mp h with h | h
  · cases hmark : b.mark with
    | none => simp [hmark] at h
    | some m => exact .inl ⟨m, hb.mark m hmark, by simpa [hmark] using h⟩
  · exact .inr (hb.details line h)

/-- A block is written in lines. -/
theorem isLine (hb : b.Valid) : ∀ line ∈ b.lines, IsLine line := by
  intro line hline
  rcases List.mem_cons.mp hline with rfl | hline
  · exact hb.isLine_headerLine
  · rcases hb.mem_below hline with ⟨m, hm, hline⟩ | hdetail
    · exact hm.isLine line hline
    · exact hdetail.toIsLine

/-- No line below the header opens a finding or sums up. -/
theorem isPlain_below (hb : b.Valid) : ∀ line ∈ b.below, IsPlain line := by
  intro line hline
  rcases hb.mem_below hline with ⟨m, hm, hline⟩ | hdetail
  · exact hm.isPlain line hline
  · exact hdetail.toIsPlain

end Block.Valid

/-! ### The finding of a block -/

/-- A draft at the caret of a mark has its details, and the source is dropped. -/
theorem Mark.Valid.taken_lines {m : Mark} (hm : m.Valid) (hlength : m.margin.length < maxColumn)
    (header : Header) (rest : List (List Char)) :
    ({ header } : Draft).taken (m.lines ++ rest) =
      (⟨header, m.above.map Text.trim, .caret (m.margin.length + 1)⟩ : Draft).taken rest := by
  obtain ⟨d, hopen, htaken⟩ := Draft.taken_details (Draft.isOpen_new header)
    (fun line hline => ⟨(hm.above line hline).toIsDetail, hm.above_no_caret line hline⟩)
    (m.echo :: caretLine m.margin :: rest)
  have hheader : d.header = header := by
    rw [← Draft.header_taken d (m.echo :: caretLine m.margin :: rest), ← htaken,
      Draft.header_taken]
  have hindented : isIndented m.echo = true ∨ [] ++ m.above.map Text.trim = [] :=
    hm.echo_indented.imp id fun h => by rw [h]; rfl
  have hecho := Draft.push_of_isOpen hopen hm.echo_not_blank hm.echo_no_caret hindented
  have hcaret := Draft.push_of_caretColumn? (d := ⟨d.header, [] ++ m.above.map Text.trim,
    .noCaret (some m.echo)⟩) rfl (caretColumn?_caretLine hm.margin hlength)
  rw [lines, List.append_assoc, List.cons_append, List.cons_append, List.nil_append, htaken,
    Draft.taken_cons hecho, Draft.taken_cons hcaret, hheader, List.nil_append]

/-- The lines of a block make the finding that it means. -/
theorem Block.Valid.finish_taken {b : Block} (hb : b.Valid)
    (hlength : ∀ m ∈ b.mark, m.margin.length < maxColumn) :
    (({ header := b.header } : Draft).taken b.below).finish = b.finding := by
  cases hmark : b.mark with
  | none =>
      obtain ⟨d, hopen, htaken⟩ := Draft.taken_details (Draft.isOpen_new b.header)
        (fun line hline => ⟨(hb.details line hline).toIsDetail,
          hb.details_no_caret hmark line hline⟩) []
      have hbelow : b.below = b.details ++ [] := by simp [Block.below, hmark]
      have hheader : d.header = b.header := by
        rw [← Draft.header_taken d [], ← htaken, Draft.header_taken]
      obtain ⟨⟨held, hnoCaret, -⟩, hsettled⟩ := hopen
      rw [hbelow, htaken, Draft.taken, Draft.finish, hsettled, hnoCaret, hheader]
      simp [Block.finding, Block.allDetails, hmark, Block.header]
  | some m =>
      have hbelow : b.below = m.lines ++ b.details := by simp [Block.below, hmark]
      rw [hbelow, (hb.mark m hmark).taken_lines (hlength m hmark),
        Draft.taken_details_of_caret rfl fun line hline => (hb.details line hline).toIsDetail]
      simp [Draft.finish, Draft.settled, Block.finding, Block.allDetails, hmark, Block.header]

/-- The lines below its header make a draft the finding of the block. -/
theorem Block.Valid.foundAs {b : Block} (hb : b.Valid) :
    b.FoundAs (({ header := b.header } : Draft).taken b.below).finish where
  path_eq := by rw [Draft.finish, Draft.header_taken]; rfl
  line_eq := by rw [Draft.finish, Draft.header_taken]; rfl
  severity_eq := by rw [Draft.finish, Draft.header_taken]; rfl
  code_eq := by rw [Draft.finish, Draft.header_taken]; rfl
  eq_of_column_le := hb.finish_taken

/-! ### Reports -/

/-- What may stand between blocks: blank lines, and lines that sum up. -/
inductive IsFiller : List Char → Prop
  | blank {line : List Char} (hline : IsLine line) (hblank : Text.isBlankText line = true) :
      IsFiller line
  | summary {count noun : List Char} (hne : count ≠ [])
      (hcount : ∀ c ∈ count, Text.isDigit c = true) (hnoun : noun ∈ summaryNouns) :
      IsFiller (summaryLine count noun)

/-- The lines of a report: some in front of all blocks, and some behind each. -/
def reportLines (front : List (List Char)) (blocks : List (Block × List (List Char))) :
    List (List Char) :=
  front ++ blocks.flatMap fun (b, behind) => b.lines ++ behind

/-- Whether what stands between the blocks of a report may stand there, and the blocks can be
written. -/
structure IsReport (front : List (List Char)) (blocks : List (Block × List (List Char))) :
    Prop where
  front : ∀ line ∈ front, IsFiller line
  valid : ∀ entry ∈ blocks, entry.1.Valid
  behind : ∀ entry ∈ blocks, ∀ line ∈ entry.2, IsFiller line

section Filler

variable {line : List Char} {rest : List (List Char)}

/-- What stands between blocks stands on lines. -/
theorem IsFiller.isLine (h : IsFiller line) : IsLine line := by
  cases h with
  | blank hline _ => exact hline
  | @summary count noun _ hcount hnoun =>
      have hnouns : ∀ noun ∈ summaryNouns, '\n' ∉ noun ∧ '\r' ∉ noun := by decide
      have hnoun : IsLine noun := ⟨(hnouns noun hnoun).1, (hnouns noun hnoun).2⟩
      have hcount : IsLine count := Text.isLine_of_forall hcount (by decide) (by decide)
      exact Text.isLine_append.mpr ⟨hcount, hnoun.cons (by decide) (by decide)⟩

/-- Nothing between blocks opens a finding. -/
theorem IsFiller.header?_eq_none (h : IsFiller line) : header? line = none := by
  cases h with
  | blank _ hblank => exact (isPlain_of_blank hblank).no_header
  | summary _ hcount hnoun => exact header?_summaryLine hcount hnoun

/-- What stands between blocks lets no finding go on. -/
theorem IsFiller.closes (h : IsFiller line) (hrest : Closes rest) : Closes (line :: rest) := by
  cases h with
  | blank _ hblank => exact closes_of_blank hblank hrest
  | summary hne hcount hnoun =>
      exact closes_of_summary (header?_summaryLine hcount hnoun)
        (isSummary_summaryLine hne hcount hnoun) rest

/-- What stands between blocks says nothing. -/
theorem readLines_fillers {fillers : List (List Char)} (h : ∀ line ∈ fillers, IsFiller line)
    (rest : List (List Char)) : readLines none (fillers ++ rest) = readLines none rest :=
  readLines_none_append (fun line hline => (h line hline).header?_eq_none) rest

/-- Lines between blocks close a finding if what follows them does. -/
theorem closes_fillers {fillers : List (List Char)} (h : ∀ line ∈ fillers, IsFiller line)
    (hrest : Closes rest) : Closes (fillers ++ rest) := by
  induction fillers with
  | nil => exact hrest
  | cons line others ih =>
      exact (h line (List.mem_cons_self ..)).closes
        (ih fun other hother => h other (List.mem_cons_of_mem line hother))

end Filler

/-- The header of a block lets no finding before it go on. -/
theorem closes_blocks {blocks : List (Block × List (List Char))}
    (h : ∀ entry ∈ blocks, entry.1.Valid) :
    Closes (blocks.flatMap fun (b, behind) => b.lines ++ behind) := by
  cases blocks with
  | nil => exact closes_nil
  | cons entry others =>
      exact closes_of_header (h entry (List.mem_cons_self ..)).header?_headerLine _

/-- Each block is read by itself. -/
theorem readLines_blocks {blocks : List (Block × List (List Char))}
    (hvalid : ∀ entry ∈ blocks, entry.1.Valid)
    (hbehind : ∀ entry ∈ blocks, ∀ line ∈ entry.2, IsFiller line) :
    readLines none (blocks.flatMap fun (b, behind) => b.lines ++ behind) =
      blocks.map fun (b, _) => (({ header := b.header } : Draft).taken b.below).finish := by
  induction blocks with
  | nil => rfl
  | cons entry others ih =>
      obtain ⟨b, behind⟩ := entry
      have hb : b.Valid := hvalid _ (List.mem_cons_self ..)
      have hfillers : ∀ line ∈ behind, IsFiller line := hbehind _ (List.mem_cons_self ..)
      have hothers := fun other hother => hvalid other (List.mem_cons_of_mem (b, behind) hother)
      have hheader (rest : List (List Char)) : readLines none (b.headerLine :: rest) =
          readLines (some { header := b.header }) rest := by
        simp [readLines, hb.header?_headerLine]
      rw [List.flatMap_cons, List.append_assoc, Block.lines, List.cons_append, hheader,
        readLines_append hb.isPlain_below (closes_fillers hfillers (closes_blocks hothers)),
        readLines_fillers hfillers,
        ih hothers fun other hother => hbehind other (List.mem_cons_of_mem (b, behind) hother)]
      rfl

/-! ### A report of two findings

For an example: an error with its place and a detail, and a warning that is always given, with a
detail and a line that sums up. -/

/-- A block with a mark. -/
def markedBlock : Block where
  path := "/A.java".toList
  line := 10
  kind := "error".toList
  message := "no symbol".toList
  mark := some ⟨[], "    f();".toList, List.replicate 4 ' '⟩
  details := ["  symbol: f".toList]

/-- A block with a tag. -/
def taggedBlock : Block where
  path := "/B.java".toList
  line := 3
  kind := "Warning".toList
  message := "[removal] gone".toList
  details := ["\tsee there".toList]

/-- The block with the mark can be written. -/
theorem valid_markedBlock : markedBlock.Valid where
  path_isLine := ⟨by decide, by decide⟩
  path_no_colon := by decide
  path_extension := by decide
  line_le := by decide
  kind_ne_nil := by decide
  kind_all := List.all_eq_true.mp (by decide)
  message_isLine := ⟨by decide, by decide⟩
  message_head := by
    rintro _ ⟨⟩
    decide
  mark := by
    rintro _ ⟨⟩
    exact ⟨by simp, by simp, ⟨by decide, by decide⟩, ⟨by decide, by decide⟩, by decide, by decide,
      .inr rfl, isMargin_replicate 4⟩
  details := by
    intro line hline
    obtain rfl := List.mem_singleton.mp hline
    exact ⟨⟨by decide, by decide⟩, ⟨by decide, by decide⟩, ⟨by decide, by decide⟩⟩
  details_no_caret := by rintro ⟨⟩

/-- The block with the tag can be written. -/
theorem valid_taggedBlock : taggedBlock.Valid where
  path_isLine := ⟨by decide, by decide⟩
  path_no_colon := by decide
  path_extension := by decide
  line_le := by decide
  kind_ne_nil := by decide
  kind_all := List.all_eq_true.mp (by decide)
  message_isLine := ⟨by decide, by decide⟩
  message_head := by
    rintro _ ⟨⟩
    decide
  mark := by rintro _ ⟨⟩
  details := by
    intro line hline
    obtain rfl := List.mem_singleton.mp hline
    exact ⟨⟨by decide, by decide⟩, ⟨by decide, by decide⟩, ⟨by decide, by decide⟩⟩
  details_no_caret := by
    intro _ line hline
    obtain rfl := List.mem_singleton.mp hline
    decide

/-- Both blocks, with a blank line between them. -/
def sampleBlocks : List (Block × List (List Char)) :=
  [(markedBlock, [[]]), (taggedBlock, ["2 warnings".toList])]

/-- The text of the report. -/
def sampleReport : List Char :=
  (reportLines [] sampleBlocks).flatMap (· ++ ['\n'])

/-- Both blocks make a report. -/
theorem isReport_sampleBlocks : IsReport [] sampleBlocks where
  front := by simp
  valid := by
    rintro entry (_ | ⟨_, _ | ⟨_, ⟨⟩⟩⟩)
    · exact valid_markedBlock
    · exact valid_taggedBlock
  behind := by
    rintro entry (_ | ⟨_, _ | ⟨_, ⟨⟩⟩⟩) line (_ | ⟨_, ⟨⟩⟩)
    · exact .blank ⟨by decide, by decide⟩ rfl
    · have hcount : ∀ c ∈ ['2'], Text.isDigit c = true := List.all_eq_true.mp (by decide)
      have hnoun : "warnings".toList ∈ summaryNouns := by decide
      exact .summary (by decide) hcount hnoun

/-- **Reports.** A report is made of blocks, with any blank lines and any lines that sum up in
front of them, between them and behind them. It is read as one finding for each block, in order: the
one that the block means. -/
theorem parse_report {text : List Char} {front : List (List Char)}
    {blocks : List (Block × List (List Char))} (hreport : IsReport front blocks)
    (htext : IsTextOf text (reportLines front blocks)) :
    List.Forall₂ Block.FoundAs (blocks.map (·.1)) (parse text) := by
  have hlines : ∀ line ∈ reportLines front blocks, IsLine line := by
    intro line hline
    rcases List.mem_append.mp hline with hline | hline
    · exact (hreport.front line hline).isLine
    · obtain ⟨entry, hentry, hline⟩ := List.mem_flatMap.mp hline
      rcases List.mem_append.mp hline with hline | hline
      · exact (hreport.valid entry hentry).isLine line hline
      · exact (hreport.behind entry hentry line hline).isLine
  rw [parse_of_isTextOf htext hlines, reportLines, readLines_fillers hreport.front,
    readLines_blocks hreport.valid hreport.behind, List.forall₂_map_left_iff,
    List.forall₂_map_right_iff, List.forall₂_same]
  exact fun entry hentry => (hreport.valid entry hentry).foundAs

/-- The report of the example is read as the two findings. -/
theorem parse_sampleReport :
    IsReport [] sampleBlocks ∧ IsTextOf sampleReport (reportLines [] sampleBlocks) ∧
      parse sampleReport =
        [{ path := .ofString "/A.java", line := some 10, column := some 5, severity := .error
           message := "no symbol\nsymbol: f" },
         { path := .ofString "/B.java", line := some 3, severity := .mandatoryWarning
           message := "gone\nsee there", code := some "removal" }] := by
  have htext : IsTextOf sampleReport (reportLines [] sampleBlocks) := .inl rfl
  refine ⟨isReport_sampleBlocks, htext, ?_⟩
  have hfound := parse_report isReport_sampleBlocks htext
  generalize parse sampleReport = findings at hfound
  rcases hfound with _ | ⟨hmarked, _ | ⟨htagged, ⟨⟩⟩⟩
  rw [hmarked.eq_of_column_le (by decide), htagged.eq_of_column_le (by decide)]
  decide

end PullDiagnostics.Report
