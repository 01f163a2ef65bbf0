import PullDiagnostics.Checker.Failure
import PullDiagnostics.DocumentMap
import PullDiagnostics.FileTree.Basic
import PullDiagnostics.Fingerprint

/-!
# Analysis passes

A pass gives a set of files to a checker and keeps what it reports, together with the
fingerprints that the files had before the checker began. A pass that went wrong keeps the
findings that were reported until then, but says nothing about the files without any.

* `group_findings`: the findings of a document, collected one by one, are those of the pass
  about it in their order.
* `get?_groups_eq_some_iff`: exactly the documents with findings have a group.
* `get?_verdicts`: which documents a pass has a verdict on, and what it is.
-/

namespace PullDiagnostics

/-- What one analysis of a set of files has given. -/
structure Pass where
  files : List FilePath := []
  /-- What the files held before the checker began. -/
  fingerprints : List (FilePath × Fingerprint) := []
  findings : List Finding := []
  failure : Option CheckFailure := none
  deriving DecidableEq, Inhabited

namespace Pass

/-- The fingerprint of a file as it is now. -/
def liveFingerprint (t : FileTree) (p : FilePath) : Except FileError Fingerprint :=
  (t.read p).map Fingerprint.ofBytes

/-- The fingerprints of those files that can be read. -/
def snapshot (t : FileTree) (files : List FilePath) : List (FilePath × Fingerprint) :=
  files.filterMap fun p => (liveFingerprint t p).toOption.map (p, ·)

/-- A pass made of its parts; the files are fingerprinted as they are now. -/
def ofParts (t : FileTree) (files : List FilePath) (findings : List Finding)
    (failure : Option CheckFailure) : Pass :=
  ⟨files, snapshot t files, findings, failure⟩

/-- The fingerprint that a file had before the checker began. -/
def fingerprint? (pass : Pass) (p : FilePath) : Option Fingerprint :=
  (pass.fingerprints.find? fun entry => entry.1.samePlace p).map (·.2)

/-- Whether the checker has seen every file to the end. Only then is a file without findings
known to be clean. -/
def isComplete (pass : Pass) : Bool :=
  pass.failure.isNone

/-! ### Findings by document -/

/-- The findings of a pass about one document. -/
def findingsOf (pass : Pass) (d : DocumentUri) : List Finding :=
  pass.findings.filter fun f => f.uri? = some d

/-- A finding put after those of its document. A finding without a document is left out. -/
def addFinding (groups : DocumentMap (List Finding)) (f : Finding) :
    DocumentMap (List Finding) :=
  match f.uri? with
  | none => groups
  | some d => groups.put d ((groups.get? d).getD [] ++ [f])

/-- A document without findings, unless there are findings already. -/
def addFile (groups : DocumentMap (List Finding)) (p : FilePath) :
    DocumentMap (List Finding) :=
  match DocumentUri.ofPath? p with
  | none => groups
  | some d => groups.put d ((groups.get? d).getD [])

/-- The findings of each document that has any. -/
def groups (pass : Pass) : DocumentMap (List Finding) :=
  pass.findings.foldl addFinding .empty

/-- The findings of each document that the pass has something to say about: those with
findings and, after a complete pass, all of its files. -/
def verdicts (pass : Pass) : DocumentMap (List Finding) :=
  pass.findings.foldl addFinding
    (if pass.isComplete then pass.files.foldl addFile .empty else .empty)

/-- A finding is added at the end of those of its document. -/
theorem get?_addFinding (m : DocumentMap (List Finding)) (f : Finding) (d : DocumentUri) :
    ((addFinding m f).get? d).getD [] =
      (m.get? d).getD [] ++ [f].filter fun g => g.uri? = some d := by
  unfold addFinding
  cases h : f.uri? with
  | none => simp [h]
  | some e =>
      simp only [DocumentMap.get?_put]
      by_cases hd : d = e
      · subst hd
        simp [h]
      · simp [h, hd, Ne.symm hd]

/-- Findings added one by one keep their order within a document. -/
theorem getD_foldl_addFinding (findings : List Finding) (m : DocumentMap (List Finding))
    (d : DocumentUri) :
    ((findings.foldl addFinding m).get? d).getD [] =
      (m.get? d).getD [] ++ findings.filter fun f => f.uri? = some d := by
  induction findings generalizing m with
  | nil => simp
  | cons f rest ih =>
      rw [List.foldl_cons, ih, get?_addFinding, List.append_assoc, ← List.filter_append,
        List.singleton_append]

/-- What is collected for a document is what the pass reports of it, in its order. -/
theorem group_findings (pass : Pass) (d : DocumentUri) :
    (pass.groups.get? d).getD [] = pass.findingsOf d := by
  simp [groups, findingsOf, getD_foldl_addFinding]

/-- Whether a pass says something about a document: it has findings, or the pass is complete
and has it among its files. -/
def speaksOf (pass : Pass) (d : DocumentUri) : Bool :=
  pass.findings.any (fun f => f.uri? = some d) ||
    (pass.isComplete && pass.files.any fun p => DocumentUri.ofPath? p = some d)

/-- A pass speaks of the documents of its findings. -/
theorem contains_foldl_addFinding (findings : List Finding) (m : DocumentMap (List Finding))
    (d : DocumentUri) :
    (findings.foldl addFinding m).contains d =
      (m.contains d || findings.any fun f => f.uri? = some d) := by
  induction findings generalizing m with
  | nil => simp
  | cons f rest ih =>
      have hf : (addFinding m f).contains d = (m.contains d || decide (f.uri? = some d)) := by
        unfold addFinding
        cases h : f.uri? with
        | none => simp
        | some e => by_cases hd : d = e <;> simp [DocumentMap.contains_put, hd, eq_comm]
      rw [List.foldl_cons, ih, hf, List.any_cons, Bool.or_assoc]

/-- A document has a group exactly if the pass has findings about it. -/
theorem contains_groups (pass : Pass) (d : DocumentUri) :
    pass.groups.contains d = !(pass.findingsOf d).isEmpty := by
  simp only [groups, contains_foldl_addFinding, DocumentMap.contains_empty, Bool.false_or,
    findingsOf]
  rw [Bool.eq_iff_iff]
  simp

/-- The group of a document are the findings about it, if there are any. -/
theorem get?_groups_eq_some_iff {pass : Pass} {d : DocumentUri} {findings : List Finding} :
    pass.groups.get? d = some findings ↔ findings = pass.findingsOf d ∧ findings ≠ [] := by
  have hgroup : (pass.groups.get? d).getD [] = pass.findingsOf d := group_findings pass d
  have hcontains : (pass.groups.get? d).isSome = !(pass.findingsOf d).isEmpty :=
    contains_groups pass d
  cases h : pass.groups.get? d with
  | none =>
      rw [h] at hcontains
      have hnone : pass.findingsOf d = [] := by simpa using hcontains.symm
      simp [hnone]
  | some group =>
      rw [h] at hcontains hgroup
      obtain rfl : group = pass.findingsOf d := hgroup
      have hsome : pass.findingsOf d ≠ [] := by simpa using hcontains.symm
      constructor
      · rintro ⟨⟩
        exact ⟨rfl, hsome⟩
      · rintro ⟨rfl, -⟩
        rfl

/-- A pass that has looked at a file speaks of it, with or without findings. -/
theorem contains_foldl_addFile (files : List FilePath) (m : DocumentMap (List Finding))
    (d : DocumentUri) :
    (files.foldl addFile m).contains d =
      (m.contains d || files.any fun p => DocumentUri.ofPath? p = some d) := by
  induction files generalizing m with
  | nil => simp
  | cons p rest ih =>
      have hp : (addFile m p).contains d =
          (m.contains d || decide (DocumentUri.ofPath? p = some d)) := by
        unfold addFile
        cases h : DocumentUri.ofPath? p with
        | none => simp
        | some e => by_cases hd : d = e <;> simp [DocumentMap.contains_put, hd, eq_comm]
      rw [List.foldl_cons, ih, hp, List.any_cons, Bool.or_assoc]

/-- Adding the files of a pass changes the findings of no document. -/
theorem getD_foldl_addFile (files : List FilePath) (m : DocumentMap (List Finding))
    (d : DocumentUri) :
    ((files.foldl addFile m).get? d).getD [] = (m.get? d).getD [] := by
  induction files generalizing m with
  | nil => rfl
  | cons p rest ih =>
      rw [List.foldl_cons, ih]
      unfold addFile
      cases DocumentUri.ofPath? p with
      | none => rfl
      | some e => by_cases hd : d = e <;> simp [DocumentMap.get?_put, hd]

/-- The verdict of a pass on a document is what it reports of it, if it says anything. -/
theorem get?_verdicts (pass : Pass) (d : DocumentUri) :
    pass.verdicts.get? d =
      if pass.speaksOf d then some (pass.findingsOf d) else none := by
  have hcontains : pass.verdicts.contains d = pass.speaksOf d := by
    unfold verdicts speaksOf
    rw [contains_foldl_addFinding]
    cases pass.isComplete <;> simp [contains_foldl_addFile, Bool.or_comm]
  have hfindings : (pass.verdicts.get? d).getD [] = pass.findingsOf d := by
    unfold verdicts findingsOf
    rw [getD_foldl_addFinding]
    cases pass.isComplete <;> simp [getD_foldl_addFile]
  rw [← hcontains, ← hfindings]
  cases h : pass.verdicts.get? d <;> simp [DocumentMap.contains, h]

end Pass

end PullDiagnostics
