import Mathlib.Data.List.Basic
import Mathlib.Logic.ExistsUnique
import PullDiagnostics.Orchestrator.Basic
import PullDiagnostics.Proofs.Cache.History
import PullDiagnostics.Proofs.DocumentUri.Paths

/-!
# What a pass says of a document

The findings of a pass reach a client in three ways: as the answer to the query that has run the
pass, as an item of a workspace report, and from the entry that the pass has left in the cache.
All three sort the findings by document, each for itself. They come to the same: of each document
the findings about it, in the order in which the checker reported them.

## Main results

* `Pass.existsUnique_group`: a finding with an absolute path is in one group only.
* `mem_report_iff`: what a report says, and of which documents.
* `nodup_documents_report`: a report speaks of each document once.
* `answers_agree`: the three ways come to the same.
-/

namespace PullDiagnostics

namespace Pass

variable {pass : Pass} {f : Finding}

/-- The findings of a document are those of the pass that name it. -/
theorem mem_findingsOf {d : DocumentUri} :
    f ∈ pass.findingsOf d ↔ f ∈ pass.findings ∧ f.uri? = some d := by
  simp [findingsOf]

/-- A pass has a group for every document that it has found something in. -/
theorem mem_entries_groups {d : DocumentUri} {findings : List Finding} :
    (d, findings) ∈ pass.groups.entries ↔ findings = pass.findingsOf d ∧ findings ≠ [] :=
  DocumentMap.get?_eq_some_iff.symm.trans get?_groups_eq_some_iff

/-- A finding in a group is about the document of the group. -/
theorem uri?_of_mem_group {group : DocumentUri × List Finding}
    (hgroup : group ∈ pass.groups.entries)
    (hf : f ∈ group.2) : f.uri? = some group.1 := by
  obtain ⟨d, findings⟩ := group
  obtain ⟨rfl, -⟩ := mem_entries_groups.mp hgroup
  exact (mem_findingsOf.mp hf).2

/-- **Findings by document.** A finding with an absolute path is in one group only. -/
theorem existsUnique_group (hf : f ∈ pass.findings) (habsolute : f.path.isAbsolute = true) :
    ∃! group, group ∈ pass.groups.entries ∧ f ∈ group.2 := by
  obtain ⟨d, hd⟩ := Option.isSome_iff_exists.mp (f.isSome_uri?.trans habsolute)
  have hmem : f ∈ pass.findingsOf d := mem_findingsOf.mpr ⟨hf, hd⟩
  refine ⟨(d, pass.findingsOf d),
    ⟨mem_entries_groups.mpr ⟨rfl, List.ne_nil_of_mem hmem⟩, hmem⟩, ?_⟩
  rintro ⟨e, findings⟩ ⟨hgroup, hfound⟩
  obtain rfl : d = e := Option.some.inj (hd.symm.trans (uri?_of_mem_group hgroup hfound))
  rw [(mem_entries_groups.mp hgroup).1]

/-- A finding with a relative path is in no group. -/
theorem not_mem_group (hrelative : f.path.isAbsolute = false)
    {group : DocumentUri × List Finding} (hgroup : group ∈ pass.groups.entries) :
    f ∉ group.2 := by
  intro hf
  have hsome : f.uri?.isSome = true := by rw [uri?_of_mem_group hgroup hf]; rfl
  exact absurd (f.isSome_uri?.symm.trans hsome) (by simp [hrelative])

end Pass

namespace Orchestrator

variable {o : Orchestrator} {pass : Pass}

/-- A complete pass clears the documents noted before that it has found nothing in. -/
theorem mem_cleared_iff {d : DocumentUri} :
    d ∈ o.cleared pass ↔ pass.isComplete = true ∧ d ∈ o.reported ∧ pass.findingsOf d = [] := by
  unfold cleared
  split
  next h => simp [h, Pass.contains_groups]
  next h => simp [h]

/-- **What a report says.** It says of a document what the pass has found about it. It does so of
the documents with findings and, after a complete pass, of those that were shown with issues. -/
theorem mem_report_iff {item : WorkspaceItem} :
    item ∈ o.report pass ↔
      item = o.item item.document (pass.findingsOf item.document) ∧
        (pass.findingsOf item.document ≠ [] ∨
          pass.isComplete = true ∧ item.document ∈ o.reported) := by
  simp only [report, List.mem_append, List.mem_map, Prod.exists, Pass.mem_entries_groups]
  constructor
  · rintro (⟨d, findings, ⟨rfl, hne⟩, rfl⟩ | ⟨d, hd, rfl⟩)
    · exact ⟨rfl, .inl hne⟩
    · obtain ⟨hcomplete, hreported, hnone⟩ := mem_cleared_iff.mp hd
      exact ⟨congrArg (o.item d) hnone.symm, .inr ⟨hcomplete, hreported⟩⟩
  · rintro ⟨hitem, hspoken⟩
    by_cases hnone : pass.findingsOf item.document = []
    · obtain ⟨hcomplete, hreported⟩ := hspoken.resolve_left (not_not_intro hnone)
      exact .inr ⟨item.document, mem_cleared_iff.mpr ⟨hcomplete, hreported, hnone⟩,
        (hitem.trans (congrArg (o.item item.document) hnone)).symm⟩
    · exact .inl ⟨item.document, _, ⟨rfl, hnone⟩, hitem.symm⟩

/-- The findings that a report shows of a document are those of the pass about it. -/
theorem diagnostics_of_mem_report {item : WorkspaceItem} (h : item ∈ o.report pass) :
    item.diagnostics = o.setup.presenter.presentAll (pass.findingsOf item.document) :=
  congrArg (·.diagnostics) (mem_report_iff.mp h).1

/-- A report speaks of each document once. -/
theorem nodup_documents_report (hreported : o.reported.Nodup) :
    ((o.report pass).map (·.document)).Nodup := by
  have hdocuments : (o.report pass).map (·.document) =
      pass.groups.documents ++ o.cleared pass := by
    simp only [report, List.map_append, List.map_map, DocumentMap.documents]
    congr 1
    exact List.map_id _
  rw [hdocuments, List.nodup_append]
  refine ⟨pass.groups.nodup_documents, ?_, ?_⟩
  · unfold cleared
    split
    · exact hreported.filter _
    · exact List.nodup_nil
  · rintro d hd _ hcleared rfl
    rw [DocumentMap.mem_documents_iff, Pass.contains_groups,
      (mem_cleared_iff.mp hcleared).2.2] at hd
    cases hd

/-! ### A pass that broke off

For an example: a pass that broke off after three findings, two of them about one document under
different spellings of its path, and between them one with a relative path. -/

/-- A finding that says nothing. -/
def findingAt (bytes : Bytes) : Finding := { path := ⟨bytes⟩, severity := .error, message := "" }

/-- The findings about the document, in their order. -/
def brokenFindings : List Finding :=
  [findingAt Cache.oneFile.bytes,
    findingAt [FilePath.slash, 0x42, FilePath.slash, FilePath.dot, FilePath.dot, FilePath.slash,
      0x41]]

/-- The pass. -/
def brokenPass : Pass where
  fingerprints := [(Cache.oneFile, ⟨7⟩)]
  findings := brokenFindings.take 1 ++ findingAt [0x41] :: brokenFindings.drop 1
  failure := some (.crashed "")

/-- **The three ways agree.** The group of a document in a report and the entry that the pass
leaves for it hold what the query that has run the pass is answered with: the findings about the
document in their order. Each finding with an absolute path is in one group, and no other finding
is in any. So as long as the setup stays, all three are shown alike: in the answer to that query,
in the report, and when the entry is found later, no other pass having been published since. -/
theorem answers_agree (pass : Pass) (d : DocumentUri) {o₁ o₂ o₃ : Orchestrator}
    (h₂ : o₂.setup = o₁.setup) (h₃ : o₃.setup = o₁.setup) :
    (∀ group, pass.groups.get? d = some group ↔ group = pass.findingsOf d ∧ group ≠ []) ∧
    (∀ c t e entry, (Cache.publish c t e pass).stored? d = some entry →
      entry.findings = pass.findingsOf d) ∧
    (∀ f ∈ pass.findings,
      (f.path.isAbsolute = true → ∃! group, group ∈ pass.groups.entries ∧ f ∈ group.2) ∧
      (f.path.isAbsolute = false → ∀ group ∈ pass.groups.entries, f ∉ group.2)) ∧
    ∃ shown : List Diagnostic,
      o₁.concludePass (.document d) (some pass) = (o₁, .answered (.document shown), []) ∧
      (∀ item ∈ o₂.report pass, item.document = d → item.diagnostics = shown) ∧
      (shown ≠ [] → ∃ item ∈ o₂.report pass, item.document = d) ∧
      ∀ c t e (ops : List Cache.Operation) entry, (∀ op ∈ ops, op.epoch? = none) →
        (ops.foldl Cache.apply (Cache.publish c t e pass)).stored? d = some entry →
        ∀ t inside, o₃.step t (.document d) (.looked inside (some entry)) =
          some (o₃, .answered (.document shown), []) := by
  have hentry {c t e entry} (h : (Cache.publish c t e pass).stored? d = some entry) :
      entry.findings = pass.findingsOf d :=
    (Cache.stored?_publish_eq_some_iff.mp h).2.2.2.1
  refine ⟨fun group => Pass.get?_groups_eq_some_iff, fun c t e entry => hentry,
    fun f hf => ⟨Pass.existsUnique_group hf, fun h _ => Pass.not_mem_group h⟩,
    o₁.setup.presenter.presentAll (pass.findingsOf d), rfl, ?_, ?_, ?_⟩
  · rintro item hitem rfl
    rw [diagnostics_of_mem_report hitem, h₂]
  · intro hshown
    have hfindings : pass.findingsOf d ≠ [] := by
      rintro hnone
      exact hshown (by rw [hnone]; rfl)
    exact ⟨o₂.item d (pass.findingsOf d), mem_report_iff.mpr ⟨rfl, .inl hfindings⟩, rfl⟩
  · intro c t e ops entry hops hstored t' inside
    rw [Cache.stored?_foldl_of_no_publication hops] at hstored
    split at hstored
    next => cases hstored
    next => simp only [step, documentAnswer, hentry hstored, h₃]

/-- Both findings are shown in the order of their reports, from the pass itself and from the
entry that it leaves, and the document has an item in the report. -/
theorem answers_agree_of_brokenPass :
    ({ setup := default, passes := 1 } : Orchestrator).setup =
      ({ setup := default } : Orchestrator).setup ∧
    brokenPass.groups.get? Cache.oneDocument = some brokenFindings ∧
    ∃ shown : List Diagnostic, shown.length = 2 ∧
      (∃ item ∈ ({ setup := default } : Orchestrator).report brokenPass,
        item.document = Cache.oneDocument ∧ item.diagnostics = shown) ∧
      ({ setup := default, passes := 1 } : Orchestrator).step {} (.document Cache.oneDocument)
          (.looked false (some ⟨brokenFindings, ⟨7⟩, 1⟩)) =
        some ({ setup := default, passes := 1 }, .answered (.document shown), []) := by
  have hfindings : brokenFindings = brokenPass.findingsOf Cache.oneDocument := by decide
  have hstored : (Cache.publish {} {} ⟨0⟩ brokenPass).stored? Cache.oneDocument =
      some ⟨brokenFindings, ⟨7⟩, 1⟩ := by decide
  obtain ⟨hgroup, -, -, shown, hmiss, hitem, hspoken, hhit⟩ :=
    @answers_agree brokenPass Cache.oneDocument { setup := default } { setup := default }
      { setup := default, passes := 1 } rfl rfl
  have hshown : shown.length = 2 := by
    obtain ⟨rfl⟩ := Answer.document.inj (Stage.answered.inj (Prod.mk.inj (Prod.mk.inj hmiss).2).1)
    rw [Presenter.presentAll, List.length_map, ← hfindings]
    rfl
  obtain ⟨item, hmem, hdocument⟩ := hspoken (List.ne_nil_of_length_pos (by omega))
  exact ⟨rfl, (hgroup _).mpr ⟨hfindings, by decide⟩, shown, hshown,
    ⟨item, hmem, hdocument, hitem item hmem hdocument⟩,
    hhit {} {} ⟨0⟩ [] _ (by simp) hstored {} false⟩

end Orchestrator

end PullDiagnostics
