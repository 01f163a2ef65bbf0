import PullDiagnostics.Checker.Run
import PullDiagnostics.Proofs.FileTree.Written
import PullDiagnostics.Proofs.Text.LineEnds
import PullDiagnostics.Proofs.Text.Utf8

/-!
# What a list of files tells

A command that is given a list of files in a file splits the text at line feeds, takes the double
quotes away from each line, and leaves out the backslashes before quotes and backslashes. Whatever
a path is made of, this takes its line back to it. But a line feed in a path is written as it is, so
that the path takes up more than one line; a list tells what the arguments would have told exactly
if no path in it has one.

## Main results

* `FileList.unquote_line`: the line of a path gives the path back.
* `FileList.paths?_content_iff`: which lists are read as they were meant.
* `Checker.start_eq_bind`: what a command is run with are the arguments that hand the files over.
* `Checker.handOver_spec`: what is handed over on either side of the threshold.
-/

namespace PullDiagnostics

namespace FileList

/-! ### Reading a list -/

/-- A text without the backslashes that stand before a double quote or a backslash. -/
def unescape : List Char → List Char
  | [] => []
  | [c] => [c]
  | c :: d :: rest =>
      if c = '\\' ∧ (d = '"' ∨ d = '\\') then d :: unescape rest else c :: unescape (d :: rest)

/-- The path that a line stands for: what is between the double quotes around it. -/
def unquote (line : List Char) : Option String :=
  if line.head? = some '"' ∧ line.tail.getLast? = some '"' then
    some (String.ofList (unescape line.tail.dropLast))
  else none

/-- The paths that a list holds, one on each line; each line ends with a line feed. -/
def paths? (content : Bytes) : Option (List String) :=
  (Utf8.decode? content).bind fun text =>
    let pieces := text.splitOn '\n'
    if pieces.getLast? = some [] then pieces.dropLast.mapM unquote else none

/-! ### The line of a path -/

/-- A character other than a backslash stands for itself. -/
theorem unescape_cons_of_ne {c : Char} (h : c ≠ '\\') (rest : List Char) :
    unescape (c :: rest) = c :: unescape rest := by
  cases rest with
  | nil => rfl
  | cons d rest => rw [unescape, if_neg fun hc => h hc.1]

/-- A quote and a backslash get a backslash before them. -/
theorem escape_cons_of_special {c : Char} (h : c = '"' ∨ c = '\\') (rest : List Char) :
    escape (c :: rest) = '\\' :: c :: escape rest := by
  simp [escape, h]

/-- Every other character is written as it is, a line feed too. -/
theorem escape_cons_of_plain {c : Char} (h : ¬ (c = '"' ∨ c = '\\')) (rest : List Char) :
    escape (c :: rest) = c :: escape rest := by
  simp [escape, h]

/-- What is left out was put in. -/
theorem unescape_escape (path : List Char) : unescape (escape path) = path := by
  induction path with
  | nil => rfl
  | cons c rest ih =>
      by_cases hc : c = '"' ∨ c = '\\'
      · rw [escape_cons_of_special hc, unescape, if_pos ⟨rfl, hc⟩, ih]
      · rw [escape_cons_of_plain hc, unescape_cons_of_ne fun h => hc (.inr h), ih]

/-- **One path.** Its line gives it back. -/
theorem unquote_line (path : String) : unquote (line path.toList) = some path := by
  have hquotes : (line path.toList).head? = some '"' ∧
      (line path.toList).tail.getLast? = some '"' := by
    simp [line]
  rw [unquote, if_pos hquotes]
  simp [line, unescape_escape]

/-- Nothing is done about line feeds. -/
theorem count_escape (path : List Char) : (escape path).count '\n' = path.count '\n' := by
  induction path with
  | nil => rfl
  | cons c rest ih =>
      by_cases hc : c = '"' ∨ c = '\\'
      · rw [escape_cons_of_special hc, List.count_cons_of_ne (by decide), List.count_cons,
          List.count_cons, ih]
      · rw [escape_cons_of_plain hc, List.count_cons, List.count_cons, ih]

/-- Quoting a path neither adds nor removes line feeds. -/
theorem count_line (path : List Char) : (line path).count '\n' = path.count '\n' := by
  simp [line, count_escape]

/-! ### Lists -/

theorem mapM_eq_some_iff {α β : Type} {f : α → Option β} {xs : List α} {ys : List β} :
    xs.mapM f = some ys ↔ xs.map f = ys.map some := by
  induction xs generalizing ys with
  | nil => cases ys <;> simp
  | cons x rest ih =>
      simp only [List.mapM_cons, Option.bind_eq_bind, Option.pure_def, Option.bind_eq_some_iff, ih,
        Option.some.injEq]
      constructor
      · rintro ⟨y, hy, zs, hzs, rfl⟩
        rw [List.map_cons, hy, hzs, List.map_cons]
      · intro h
        obtain ⟨y, zs, rfl, hy, hzs⟩ := List.map_eq_cons_iff.mp h.symm
        exact ⟨y, hy.symm, zs, hzs.symm, rfl⟩

/-- The bytes of the list are the text of its lines in UTF-8. -/
theorem content_eq (paths : List String) :
    content (paths.map .ofString) = Utf8.encode (text (paths.map String.toList)) := by
  rw [content, List.map_map]
  congr 2
  exact List.map_congr_left fun p _ => Utf8.decodeLossy_encode p.toList

/-- A text is read as a list of paths if it has one line for each of them that gives it back. -/
theorem paths?_encode_eq_some_iff {text : List Char} {paths : List String} :
    paths? (Utf8.encode text) = some paths ↔
      ∃ lines, text.splitOn '\n' = lines ++ [[]] ∧ lines.map unquote = paths.map some := by
  simp only [paths?, Utf8.decode?_encode, Option.bind_some]
  constructor
  · intro h
    split_ifs at h with hlast
    obtain ⟨lines, hlines⟩ := List.getLast?_eq_some_iff.mp hlast
    rw [hlines, List.dropLast_concat] at h
    exact ⟨lines, hlines, mapM_eq_some_iff.mp h⟩
  · rintro ⟨lines, hlines, hpaths⟩
    simpa [hlines] using mapM_eq_some_iff.mpr hpaths

/-- The line feeds of lines with their ends. -/
theorem count_flatten_map_concat (lines : List (List Char)) :
    ((lines.map (· ++ ['\n'])).flatten).count '\n' =
      (lines.map (List.count '\n')).sum + lines.length := by
  induction lines with
  | nil => rfl
  | cons line rest ih =>
      rw [List.map_cons, List.flatten_cons, List.count_append, List.count_append, ih,
        List.count_singleton_self, List.map_cons, List.sum_cons, List.length_cons]
      omega

/-- Every line of the list is ended by a line feed. -/
theorem text_eq_flatten (paths : List (List Char)) :
    text paths = ((paths.map line).map (· ++ ['\n'])).flatten := by
  rw [text, List.flatMap_def, List.map_map]
  rfl

/-- A text is cut into its lines, if no line feed is in them but at their ends. -/
theorem splitOn_flatten_map_concat {lines : List (List Char)} (h : ∀ line ∈ lines, '\n' ∉ line) :
    ((lines.map (· ++ ['\n'])).flatten).splitOn '\n' = lines ++ [[]] := by
  have hflatten := Text.flatten_eq_intercalate lines []
  rw [Text.lastLine, List.isEmpty_nil, if_pos rfl, List.append_nil] at hflatten
  rw [hflatten, List.splitOn_intercalate '\n' _ (by simp)]
  intro line hline
  rcases List.mem_append.mp hline with hline | hline
  · exact h line hline
  · simp [List.mem_singleton.mp hline]

/-- A text has as many line feeds as lines that end with one. -/
theorem count_of_splitOn {text : List Char} {lines : List (List Char)}
    (h : text.splitOn '\n' = lines ++ [[]]) : text.count '\n' = lines.length := by
  have hnone : ∀ n ∈ lines.map (List.count '\n'), n = 0 := by
    rintro _ hn
    obtain ⟨line, hline, rfl⟩ := List.mem_map.mp hn
    exact List.count_eq_zero.mpr (Text.not_mem_of_mem_splitOn (h ▸ List.mem_append_left _ hline))
  have htext : text = (lines.map (· ++ ['\n'])).flatten := by
    have hpieces : List.intercalate ['\n'] (text.splitOn '\n') = text :=
      List.intercalate_splitOn '\n'
    rw [← hpieces, h, ← Text.flatten_eq_intercalate]
    simp [Text.lastLine]
  rw [htext, count_flatten_map_concat, List.sum_eq_zero_iff_forall_eq_nat.mpr hnone, Nat.zero_add]

/-- **Lists of paths.** A list is read as it was meant exactly if no path in it has a line feed. -/
theorem paths?_content_iff (paths : List String) :
    paths? (content (paths.map .ofString)) = some paths ↔ ∀ p ∈ paths, '\n' ∉ p.toList := by
  rw [content_eq, paths?_encode_eq_some_iff, text_eq_flatten]
  constructor
  · rintro ⟨lines, hlines, hpaths⟩ p hp
    have hlength : lines.length = paths.length := by simpa using congrArg List.length hpaths
    -- A line feed in a path makes one more line.
    have hcount := count_of_splitOn hlines
    rw [count_flatten_map_concat, hlength, List.length_map, List.length_map, Nat.add_eq_right,
      List.sum_eq_zero_iff_forall_eq_nat] at hcount
    rw [← List.count_eq_zero, ← count_line]
    exact hcount _ (List.mem_map_of_mem (List.mem_map_of_mem (List.mem_map_of_mem hp)))
  · intro h
    refine ⟨_, splitOn_flatten_map_concat ?_, ?_⟩
    · simp only [List.mem_map]
      rintro _ ⟨_, ⟨p, hp, rfl⟩, rfl⟩
      exact List.count_eq_zero.mp ((count_line _).trans (List.count_eq_zero.mpr (h p hp)))
    · rw [List.map_map, List.map_map]
      exact List.map_congr_left fun p _ => unquote_line p

end FileList

namespace Checker

/-! ### Handing files over -/

/-- The variables that are given to a command besides those that all programs see. -/
def settingsFor (directory : FilePath) : List (String × Bytes) :=
  if directory = temporary then [] else [("TMPDIR", directory.bytes)]

/-- The arguments that hand files over to a command, and the tree in which it finds them: the files
themselves, or a single argument that names a file with the list. -/
def handOver (c : Checker) (t : FileTree) (directory : FilePath) (files : List FilePath) :
    Except CheckFailure (FileTree × List Bytes) :=
  if c.usesList files then
    match t.writeFile (directory.join listName) (FileList.content files) with
    | .error e => .error (.noFileList c.command e.message)
    | .ok later => .ok (later, [Shell.bytesOf "@" ++ (directory.join listName).bytes])
  else .ok (t, files.map (·.bytes))

/-- What is left after a command: without the list, if there was one. -/
def withoutList (c : Checker) (directory : FilePath) (files : List FilePath)
    (result : ProgramResult) : ProgramResult :=
  if c.usesList files then
    { result with
      tree := (result.tree.delete (directory.join listName)).toOption.getD result.tree }
  else result

/-- **A run** of a command is one with the arguments that hand the files over. -/
theorem start_eq_bind (c : Checker) (t : FileTree) (directory : FilePath) (args : List String)
    (files : List FilePath) :
    c.start t directory args files =
      (c.handOver t directory files).bind fun (later, arguments) =>
        ((later.launch c.command (args.map Shell.bytesOf ++ arguments)
          (settingsFor directory)).mapError (.notStarted c.command)).map
            (c.withoutList directory files) := by
  unfold start handOver
  by_cases huses : c.usesList files = true
  · simp only [huses, if_true]
    cases t.writeFile (directory.join listName) (FileList.content files) with
    | error e => rfl
    | ok later =>
        have hwithout (result : ProgramResult) : c.withoutList directory files result =
            { result with
              tree := (result.tree.delete (directory.join listName)).toOption.getD result.tree } :=
          if_pos huses
        simp only [Except.bind, settingsFor]
        cases later.launch c.command (args.map Shell.bytesOf ++
            [Shell.bytesOf "@" ++ (directory.join listName).bytes])
          (if directory = temporary then [] else [("TMPDIR", directory.bytes)]) with
        | error e => rfl
        | ok result => simp only [Except.mapError, Except.map, hwithout]
  · have hwithout (result : ProgramResult) : c.withoutList directory files result = result :=
      if_neg huses
    simp only [huses, Bool.false_eq_true, if_false, Except.bind, settingsFor]
    cases t.launch c.command (args.map Shell.bytesOf ++ files.map (·.bytes))
        (if directory = temporary then [] else [("TMPDIR", directory.bytes)]) with
    | error e => rfl
    | ok result => simp only [Except.mapError, Except.map, hwithout]

/-- **Files that are handed over.** Below the threshold a command is given the paths themselves, and
above it the name of a file that has them on its lines. The lines give back the paths, in their
order, exactly if no path has a line feed. -/
theorem handOver_spec (c : Checker) (t : FileTree) (directory : FilePath) (paths : List String) :
    (FileList.paths? (FileList.content (paths.map .ofString)) = some paths ↔
        ∀ p ∈ paths, '\n' ∉ p.toList) ∧
      ∀ {later arguments}, c.handOver t directory (paths.map .ofString) = .ok (later, arguments) →
        if c.usesList (paths.map .ofString) = true then
          arguments = [Shell.bytesOf "@" ++ (directory.join listName).bytes] ∧
            later.read (directory.join listName) = .ok (FileList.content (paths.map .ofString))
        else later = t ∧ arguments = paths.map fun p => Utf8.encode p.toList := by
  refine ⟨FileList.paths?_content_iff paths, fun {later arguments} h => ?_⟩
  unfold handOver at h
  split at h
  next huses =>
    rw [if_pos huses]
    split at h
    next => cases h
    next hwrite =>
      cases h
      exact ⟨rfl, FileTree.read_of_writeFile hwrite⟩
  next huses =>
    rw [if_neg huses]
    cases h
    exact ⟨rfl, List.map_map ..⟩

/-- A checker that is given all files in lists. -/
def listed : Checker :=
  { ofCommand "check" with argfileThreshold := 0 }

/-- A tree with a directory for lists. -/
def temporaryTree : FileTree :=
  ⟨.directory [(Utf8.encode "tmp".toList, .directory [])]⟩

/-- That tree with a list in the directory. -/
def listTree (paths : List String) : FileTree :=
  ⟨.directory [(Utf8.encode "tmp".toList,
    .directory [(listName.bytes, .file (FileList.content (paths.map .ofString)))])]⟩

/-- The list is written into the empty temporary directory. -/
theorem writeFile_temporaryTree (paths : List String) :
    temporaryTree.writeFile (temporary.join listName)
      (FileList.content (paths.map .ofString)) = .ok (listTree paths) := by
  generalize hcontent : FileList.content (paths.map .ofString) = content
  have hslash : (temporary.join listName).bytes.getLast? ≠ some FilePath.slash := by decide
  have hplace : temporaryTree.locate (temporary.join listName) { missing := true } =
      .ok [Utf8.encode "tmp".toList, listName.bytes] := by
    cbv
  have hfree : temporaryTree.root.get? [Utf8.encode "tmp".toList, listName.bytes] = none := by
    cbv
  simp only [FileTree.writeFile, hslash, if_false, hplace, hfree]
  rw [listTree, hcontent]
  rfl

/-- A long list of paths is handed over by the name of a file that holds it. -/
theorem handOver_listed {paths : List String}
    (huses : listed.usesList (paths.map .ofString) = true) :
    listed.handOver temporaryTree temporary (paths.map .ofString) =
      .ok (listTree paths, [Shell.bytesOf "@" ++ (temporary.join listName).bytes]) := by
  rw [handOver, if_pos huses, writeFile_temporaryTree]

/-- Quotes and backslashes do no harm in a list. -/
theorem handOver_quoted :
    ∃ later arguments,
      listed.handOver temporaryTree temporary (["/R/a\"b\\"].map .ofString) =
        .ok (later, arguments) ∧
      later.read (temporary.join listName) =
        .ok (FileList.content (["/R/a\"b\\"].map .ofString)) ∧
      FileList.paths? (FileList.content (["/R/a\"b\\"].map .ofString)) = some ["/R/a\"b\\"] := by
  have huses : listed.usesList (["/R/a\"b\\"].map .ofString) = true := by decide
  obtain ⟨hlist, hhanded⟩ := handOver_spec listed temporaryTree temporary ["/R/a\"b\\"]
  have hgiven := hhanded (handOver_listed huses)
  rw [if_pos huses] at hgiven
  exact ⟨_, _, handOver_listed huses, hgiven.2, hlist.mpr (by decide)⟩

/-- A path with a line feed takes up two lines of a list, neither of which has quotes at both ends.
As an argument the same path is one. -/
theorem handOver_lineFeed :
    listed.handOver temporaryTree temporary (["/R/a\nb"].map .ofString) =
        .ok (listTree ["/R/a\nb"], [Shell.bytesOf "@" ++ (temporary.join listName).bytes]) ∧
      (Utf8.decode? (FileList.content (["/R/a\nb"].map .ofString))).map (List.splitOn '\n') =
        some ["\"/R/a".toList, "b\"".toList, []] ∧
      FileList.paths? (FileList.content (["/R/a\nb"].map .ofString)) ≠ some ["/R/a\nb"] ∧
      (ofCommand "check").handOver temporaryTree temporary (["/R/a\nb"].map .ofString) =
        .ok (temporaryTree, [Utf8.encode "/R/a\nb".toList]) := by
  have hbelow : ¬ (ofCommand "check").usesList (["/R/a\nb"].map .ofString) = true := by decide
  refine ⟨handOver_listed (by decide), by decide, by decide, ?_⟩
  rw [handOver, if_neg hbelow]
  rfl

end Checker

end PullDiagnostics
