import PullDiagnostics.Proofs.Orchestrator.History
import PullDiagnostics.Proofs.Orchestrator.Report
import PullDiagnostics.Server.Site

/-!
# Checkers that are killed

A command that a signal has ended did not come to its end by itself, so what it has reported may be
a part of what it would have. An analysis does not look at how the command has ended, though, but at
whether it was a success and whether its streams hold a finding; a finding makes up for the failure.
So a checker that is killed before it has reported anything proves nothing, and one that is killed
later proves all files clean that it had not come to.

## Main results

* `Environment.analyse_of_ran`: the pass that is made of what a checker's command leaves.
* `Pass.provesNothing_iff`: which passes prove no file clean.
* `Environment.analyse_of_signal`: when the pass of a checker that was killed proves nothing, and
  what it proves else.
-/

namespace PullDiagnostics

/-- Whether a pass proves no file clean: it is not complete, its publication stores nothing but
findings, and no report of it takes back what was shown of a document. -/
structure Pass.ProvesNothing (pass : Pass) : Prop where
  incomplete : pass.isComplete = false
  stores_findings : ∀ {c : Cache} {t : FileTree} {e : Epoch} {d : DocumentUri} {entry : CacheEntry},
    (c.publish t e pass).stored? d = some entry → entry.findings ≠ []
  shows_diagnostics : ∀ {o : Orchestrator} {item : WorkspaceItem}, item ∈ o.report pass →
    item.diagnostics ≠ []

/-- A pass that is not complete speaks only of documents that it has findings about. -/
theorem Pass.findingsOf_ne_nil_of_speaksOf {pass : Pass} (hpass : pass.isComplete = false)
    {d : DocumentUri} (h : pass.speaksOf d = true) : pass.findingsOf d ≠ [] := by
  rw [speaksOf, hpass, Bool.false_and, Bool.or_false, List.any_eq_true] at h
  obtain ⟨f, hf, hd⟩ := h
  exact List.ne_nil_of_mem (mem_findingsOf.mpr ⟨hf, of_decide_eq_true hd⟩)

/-- **Proving nothing** comes to not being complete. -/
theorem Pass.provesNothing_iff {pass : Pass} :
    pass.ProvesNothing ↔ pass.isComplete = false := by
  refine ⟨ProvesNothing.incomplete, fun hpass => ⟨hpass, ?_, ?_⟩⟩
  · intro c t e d entry hentry
    obtain ⟨-, hspeaks, -, hfindings, -⟩ := Cache.stored?_publish_eq_some_iff.mp hentry
    rw [hfindings]
    exact findingsOf_ne_nil_of_speaksOf hpass hspeaks
  · intro o item hitem
    have hspoken := (Orchestrator.mem_report_iff.mp hitem).2
    rw [hpass] at hspoken
    rw [Orchestrator.diagnostics_of_mem_report hitem, Presenter.presentAll, Ne, List.map_eq_nil_iff]
    exact hspoken.resolve_right fun h => Bool.false_ne_true h.1

namespace Environment

variable {σ : Type} {env : Environment σ} {c : Checker} {files : List FilePath} {s : σ}
  {result : ProgramResult}

/-- Whether a checker has files checked by a command that leaves a result. -/
def Ran (env : Environment σ) (c : Checker) (files : List FilePath) (s : σ)
    (result : ProgramResult) : Prop :=
  (env.check (.command c) files s).1 = (c.resultOf result).1

/-- On a site, a command that can be started is such. -/
theorem ran_of_start {s : Site}
    (h : c.start s.tree Checker.temporary c.args files = .ok result) :
    Site.environment.Ran c files s result := by
  simp only [Ran, Site.environment, Site.check, Checker.check, h]

/-- **What a command leaves.** The pass has all findings in it, and it is complete unless the
command was no success and reported nothing. -/
theorem analyse_of_ran (hfiles : files ≠ []) (h : env.Ran c files s result) :
    (env.analyse (.command c) files s).1 =
      some ⟨files, Pass.snapshot (env.tree s) files, Checker.reported result,
        if result.status.isSuccess = true ∨ Checker.reported result ≠ [] then none
        else some (c.failureOf result)⟩ := by
  have hempty : files.isEmpty = false := List.isEmpty_eq_false_iff.mpr hfiles
  unfold Ran at h
  simp only [analyse, hempty, Bool.false_eq_true, if_false, h]
  cases hsuccess : result.status.isSuccess with
  | true => simp [Checker.resultOf, hsuccess, Pass.ofResult?, Pass.failureOf]
  | false =>
      cases hreported : Checker.reported result with
      | nil => simp [Checker.resultOf, hsuccess, hreported, Pass.ofResult?, Pass.failureOf]
      | cons f rest =>
          simp [Checker.resultOf, hsuccess, hreported, Pass.ofResult?, Pass.failureOf]

/-- **Checkers that are killed.** The pass of a checker that a signal has ended proves nothing
exactly if the checker had reported nothing. If it had, then each of the files without findings
counts as clean: the publication stores an empty entry for its document, unless this was made void
or has no fingerprint, and a report takes back what was shown of it. -/
theorem analyse_of_signal (hfiles : files ≠ []) (h : env.Ran c files s result) {n : ℕ}
    (hsignal : result.status = .signal n) :
    ∃ pass, (env.analyse (.command c) files s).1 = some pass ∧ pass.files = files ∧
      pass.findings = Checker.reported result ∧
      (pass.ProvesNothing ↔ Checker.reported result = []) ∧
      (Checker.reported result ≠ [] → ∀ {d}, pass.findingsOf d = [] →
        (∀ {cache : Cache} {t e fingerprint}, (∃ p ∈ files, DocumentUri.ofPath? p = some d) →
          cache.voidedSince d e = false → Cache.seenFingerprint? t pass d = some fingerprint →
          (cache.publish t e pass).stored? d = some ⟨[], fingerprint, cache.publications + 1⟩) ∧
        ∀ {o : Orchestrator}, d ∈ o.reported → o.item d [] ∈ o.report pass) := by
  have hfailed : result.status.isSuccess = false := by rw [hsignal]; rfl
  have hpass := analyse_of_ran hfiles h
  simp only [hfailed, Bool.false_eq_true, false_or] at hpass
  refine ⟨_, hpass, rfl, rfl, ?_, fun hreported {d} hnone => ⟨?_, fun {o} ho => ?_⟩⟩
  · rw [Pass.provesNothing_iff, Pass.isComplete]
    by_cases hreported : Checker.reported result = [] <;> simp [hreported]
  · rintro cache t e fingerprint ⟨p, hp, hd⟩ hvoided hseen
    have hspeaks : ∃ p ∈ files, DocumentUri.ofPath? p = some d := ⟨p, hp, hd⟩
    refine Cache.stored?_publish_eq_some_iff.mpr ⟨hvoided, ?_, hseen, hnone.symm, rfl⟩
    simp [Pass.speaksOf, Pass.isComplete, hreported, hspeaks]
  · refine Orchestrator.mem_report_iff.mpr ⟨?_, .inr ⟨?_, ho⟩⟩
    · rw [Orchestrator.item, hnone]
      rfl
    · simp [Pass.isComplete, hreported]

/-! ### A checker that is killed -/

/-- What is around a checker whose command has left a result. -/
def leaving (t : FileTree) (result : ProgramResult) : Environment Unit where
  tree _ := t
  tell _ s := s
  check engine _ s :=
    match engine with
    | .command c => ((c.resultOf result).1, s)
    | .provided _ _ => (⟨[], .lost⟩, s)
  version _ s := (.lost, s)

/-- An engine that leaves a tree and a result behind counts as a run of every checker. -/
theorem ran_leaving (t : FileTree) (c : Checker) (files : List FilePath) (result : ProgramResult) :
    (leaving t result).Ran c files () result := rfl

/-- What a command leaves that is killed while it writes. -/
def killedWriting (text : String) : ProgramResult :=
  { status := .signal 9, stdout := Utf8.encode text.toList, stderr := [], tree := {} }

/-- A tree with two files. -/
def pairTree : FileTree :=
  ⟨.directory [([0x52], .directory [([0x41, FilePath.dot, 0x62], .file []),
    ([0x42, FilePath.dot, 0x62], .file [])])]⟩

/-- The second of the files. -/
def laterPath : FilePath :=
  ⟨[FilePath.slash, 0x52, FilePath.slash, 0x42, FilePath.dot, 0x62]⟩

/-- The names of the two files. -/
def pairPaths : List FilePath :=
  [Orchestrator.samplePath, laterPath]

/-- The document of the second file. -/
def laterDocument : DocumentUri := (DocumentUri.ofPath? laterPath).get (by decide)

/-- A checker that is killed before it has come to a report. -/
theorem analyse_killed_early :
    ∃ pass, ((leaving pairTree (killedWriting "/R/A")).analyse (.command default) pairPaths ()).1 =
      some pass ∧ pass.ProvesNothing := by
  have hran := ran_leaving pairTree default pairPaths (killedWriting "/R/A")
  obtain ⟨pass, hpass, -, -, hproves, -⟩ := analyse_of_signal (List.cons_ne_nil _ _) hran rfl
  exact ⟨pass, hpass, hproves.mpr (by decide)⟩

/-- Both empty files are seen before the checker runs. -/
theorem snapshot_pairTree :
    Pass.snapshot pairTree pairPaths = pairPaths.map fun p => (p, Fingerprint.ofBytes []) := by
  have hfirst : pairTree.read Orchestrator.samplePath = .ok [] := by cbv
  have hlater : pairTree.read laterPath = .ok [] := by cbv
  simp [Pass.snapshot, pairPaths, Pass.liveFingerprint, hfirst, hlater, Except.map, Except.toOption]

/-- The later file is taken as it was before the checker ran. -/
theorem seenFingerprint?_pairTree {pass : Pass}
    (hpass : pass.fingerprints = Pass.snapshot pairTree pairPaths) :
    Cache.seenFingerprint? pairTree pass laterDocument = some (.ofBytes []) := by
  have hpath : laterDocument.toPath? = some laterPath := by decide
  have hother : Orchestrator.samplePath.samePlace laterPath = false := by decide
  have hsame : laterPath.samePlace laterPath = true := by decide
  have hfound : pass.fingerprint? laterPath = some (.ofBytes []) := by
    rw [Pass.fingerprint?, hpass, snapshot_pairTree]
    simp [pairPaths, List.find?, hother, hsame]
  simp [Cache.seenFingerprint?, hpath, hfound]

/-- An orchestrator that has shown an issue of the second file. -/
def shownLater : Orchestrator :=
  { setup := Orchestrator.sampleSetup, reported := [laterDocument] }

/-- A checker that is killed right after a report about the first of two files. The pass counts as
complete, so the second file is stored as clean, and a report takes back what was shown of it. -/
theorem analyse_killed_late :
    ∃ result pass, result.status = .signal 9 ∧
      (leaving pairTree result).Ran default pairPaths () result ∧
      ((leaving pairTree result).analyse (.command default) pairPaths ()).1 = some pass ∧
      pass.isComplete = true ∧ pass.findingsOf laterDocument = [] ∧
      (∃ entry, (({} : Cache).publish pairTree ⟨0⟩ pass).stored? laterDocument = some entry ∧
        entry.findings = []) ∧
      shownLater.item laterDocument [] ∈ shownLater.report pass := by
  have hreported : Checker.reported (killedWriting "/R/A.b:1: error: x\n") =
      [{ path := Orchestrator.samplePath, line := some 1, severity := .error
         message := "x" }] := by
    decide
  have hran := ran_leaving pairTree default pairPaths (killedWriting "/R/A.b:1: error: x\n")
  have hpass := analyse_of_ran (List.cons_ne_nil _ _) hran
  rw [hreported, if_pos (.inr (List.cons_ne_nil _ _))] at hpass
  refine ⟨_, _, rfl, hran, hpass, rfl, by decide, ⟨⟨[], .ofBytes [], 1⟩, ?_, rfl⟩, ?_⟩
  · exact Cache.stored?_publish_eq_some_iff.mpr
      ⟨rfl, by decide, seenFingerprint?_pairTree rfl, by decide, rfl⟩
  · exact Orchestrator.mem_report_iff.mpr ⟨by decide, .inr ⟨rfl, List.mem_singleton_self _⟩⟩

end Environment

end PullDiagnostics
