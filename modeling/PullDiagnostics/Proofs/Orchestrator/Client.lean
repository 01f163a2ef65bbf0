import Mathlib.Logic.Function.Basic
import PullDiagnostics.Proofs.Orchestrator.History
import PullDiagnostics.Proofs.Orchestrator.Report

/-!
# A client that follows the reports

A client that pulls workspace reports shows of each document what the last item about it said. A
report leaves out the documents that it has nothing new to say about, so what the client shows
depends on all reports so far. The orchestrator never sees the client; it only notes which
documents its reports have shown with issues, and empties those that have none any more, unless
the pass broke off. This keeps the client in step.

## Main results

* `receive_report`: what a client shows after a report.
* `mem_reportedAfter_iff`: which documents are noted after a report.
* `Steps.client_in_step`: after any reports, the client shows issues of exactly the documents that
  are noted, and of each document what the last pass that could tell has found.
-/

namespace PullDiagnostics

/-- What a client shows of each document. -/
abbrev View := DocumentUri → List Diagnostic

/-- A client before its first report. -/
def View.blank : View := fun _ => []

/-- Each item of a report takes the place of what is shown of its document. -/
def View.receive (v : View) (items : List WorkspaceItem) : View :=
  items.foldl (fun v item => Function.update v item.document item.diagnostics) v

namespace View

variable {v : View} {items : List WorkspaceItem}

/-- What no item speaks of stays as it is. -/
theorem receive_of_not_mem {d : DocumentUri} (h : d ∉ items.map (·.document)) :
    v.receive items d = v d := by
  induction items generalizing v with
  | nil => rfl
  | cons item rest ih =>
      rw [List.map_cons, List.mem_cons, not_or] at h
      exact (ih h.2).trans (Function.update_of_ne h.1 _ v)

/-- Of a document with one item, the client shows what the item says. -/
theorem receive_of_mem (hnodup : (items.map (·.document)).Nodup) {item : WorkspaceItem}
    (h : item ∈ items) : v.receive items item.document = item.diagnostics := by
  induction items generalizing v with
  | nil => simp at h
  | cons first rest ih =>
      rw [List.map_cons, List.nodup_cons] at hnodup
      rcases List.mem_cons.mp h with rfl | hrest
      · exact (receive_of_not_mem hnodup.1).trans (Function.update_self _ _ v)
      · exact ih hnodup.2 hrest

end View

namespace DocumentUri

/-- An insertion adds one document. -/
theorem mem_insertSorted_iff {d e : DocumentUri} {names : List DocumentUri} :
    e ∈ insertSorted d names ↔ e = d ∨ e ∈ names := by
  induction names with
  | nil => simp [insertSorted]
  | cons first rest ih =>
      unfold insertSorted
      split
      next h => simp [h]
      next =>
        split
        next => simp
        next => rw [List.mem_cons, ih, List.mem_cons, or_left_comm]

/-- Documents inserted one by one are added to those that were there. -/
theorem mem_foldl_insertSorted_iff {e : DocumentUri} {names known : List DocumentUri} :
    e ∈ names.foldl (fun known d => insertSorted d known) known ↔ e ∈ names ∨ e ∈ known := by
  induction names generalizing known with
  | nil => simp
  | cons d rest ih => rw [List.foldl_cons, ih, mem_insertSorted_iff, List.mem_cons]; tauto

end DocumentUri

namespace Orchestrator

/-! ### What is noted -/

/-- Whether the documents that are noted stand in order, as those of a map do. -/
def Noted (reported : List DocumentUri) : Prop :=
  ∃ m : DocumentMap (List Finding), reported = m.documents

/-- No document is noted twice. -/
theorem Noted.nodup {reported : List DocumentUri} (h : Noted reported) : reported.Nodup := by
  obtain ⟨m, rfl⟩ := h
  exact m.nodup_documents

/-- Noting more documents keeps the order. -/
theorem Noted.foldl_insertSorted {reported : List DocumentUri} (h : Noted reported)
    (names : List DocumentUri) :
    Noted (names.foldl (fun known d => DocumentUri.insertSorted d known) reported) := by
  induction names generalizing reported with
  | nil => exact h
  | cons d rest ih =>
      obtain ⟨m, rfl⟩ := h
      exact ih ⟨m.put d [], (m.documents_put d []).symm⟩

variable {o o' : Orchestrator} {pass : Pass}

/-- What a pass leaves noted is in order. -/
theorem Noted.reportedAfter (h : Noted o.reported) (pass : Pass) :
    Noted (o.reportedAfter pass) := by
  unfold Orchestrator.reportedAfter
  split
  · exact ⟨pass.groups, rfl⟩
  · exact h.foldl_insertSorted _

/-- Noted after a report are the documents with findings and, if the pass broke off, those that
were noted before. -/
theorem mem_reportedAfter_iff {d : DocumentUri} :
    d ∈ o.reportedAfter pass ↔
      pass.findingsOf d ≠ [] ∨ pass.isComplete = false ∧ d ∈ o.reported := by
  have hgroup : d ∈ pass.groups.documents ↔ pass.findingsOf d ≠ [] := by
    simp [DocumentMap.mem_documents_iff, Pass.contains_groups]
  unfold reportedAfter
  split
  next h => simp [hgroup, h]
  next h => simp [DocumentUri.mem_foldl_insertSorted_iff, hgroup, h]

/-! ### What a client shows after a report -/

/-- After a report, the client shows of a document what the pass has found about it, if the pass
has found anything or the client has shown issues of it and the pass is complete. -/
theorem receive_report (hnoted : Noted o.reported) (v : View) (d : DocumentUri) :
    v.receive (o.report pass) d =
      if pass.findingsOf d ≠ [] ∨ pass.isComplete = true ∧ d ∈ o.reported then
        o.setup.presenter.presentAll (pass.findingsOf d)
      else v d := by
  split
  next hspoken =>
    have hitem : o.item d (pass.findingsOf d) ∈ o.report pass := mem_report_iff.mpr ⟨rfl, hspoken⟩
    exact View.receive_of_mem (nodup_documents_report hnoted.nodup) hitem
  next hsilent =>
    refine View.receive_of_not_mem fun hd => ?_
    obtain ⟨item, hitem, rfl⟩ := List.mem_map.mp hd
    exact hsilent (mem_report_iff.mp hitem).2

/-- There are issues to show exactly if there are findings. -/
theorem presentAll_ne_nil_iff {presenter : Presenter} {findings : List Finding} :
    presenter.presentAll findings ≠ [] ↔ findings ≠ [] :=
  not_congr List.map_eq_nil_iff

/-- Whether a client shows issues of exactly the documents that are noted. -/
structure InStep (o : Orchestrator) (v : View) : Prop where
  noted : Noted o.reported
  mem_reported_iff : ∀ d, d ∈ o.reported ↔ v d ≠ []

/-- A report keeps the client in step. -/
theorem InStep.receive {v : View} (h : InStep o v) (ho' : o'.reported = o.reportedAfter pass) :
    InStep o' (v.receive (o.report pass)) := by
  refine ⟨ho' ▸ h.noted.reportedAfter pass, fun d => ?_⟩
  have hshown := h.mem_reported_iff d
  rw [ho', mem_reportedAfter_iff, receive_report h.noted]
  split
  next hspoken =>
    rw [presentAll_ne_nil_iff, or_iff_left_iff_imp]
    rintro ⟨hbroken, hreported⟩
    rcases hspoken with hfindings | ⟨hcomplete, -⟩
    · exact hfindings
    · exact absurd (hbroken.symm.trans hcomplete) Bool.false_ne_true
  next hsilent =>
    rw [not_or, not_not] at hsilent
    rw [hsilent.1, ← hshown]
    cases hcomplete : pass.isComplete <;> simp_all

/-- A report says that a document has no issues only if the client shows some. -/
theorem InStep.shown_of_cleared {v : View} (h : InStep o v) {item : WorkspaceItem}
    (hitem : item ∈ o.report pass) (hempty : item.diagnostics = []) : v item.document ≠ [] := by
  obtain ⟨-, hfindings | ⟨-, hreported⟩⟩ := mem_report_iff.mp hitem
  · rw [diagnostics_of_mem_report hitem] at hempty
    exact absurd hempty (presentAll_ne_nil_iff.mpr hfindings)
  · exact (h.mem_reported_iff _).mp hreported

/-- A client that is in step shows of each document what the last pass that could tell has
found. -/
theorem InStep.receive_report_eq {v : View} (h : InStep o v) (d : DocumentUri) :
    v.receive (o.report pass) d =
      if pass.isComplete = true ∨ pass.findingsOf d ≠ [] then
        o.setup.presenter.presentAll (pass.findingsOf d)
      else v d := by
  rw [receive_report h.noted]
  by_cases hreported : d ∈ o.reported
  · simp only [hreported, and_true, or_comm]
  · -- Where no issues are shown there are none to take away.
    have hblank : v d = [] := not_not.mp (mt (h.mem_reported_iff d).mpr hreported)
    by_cases hfindings : pass.findingsOf d = []
    · simp [hreported, hfindings, hblank, Presenter.presentAll]
    · simp [hfindings]

/-! ### Steps that report -/

/-- The report that is given when something happens. -/
def Happening.report? : Happening → Option (List WorkspaceItem)
  | .moved _ _ (.answered (.workspace items)) => some items
  | _ => none

/-- What a client shows that has got all reports of a history. -/
def viewAfter (h : List Happening) : View :=
  (h.filterMap Happening.report?).foldl View.receive View.blank

/-- A report at the end of a history is the last that the client gets. -/
theorem viewAfter_append_of_report {h : List Happening} {x : Happening}
    {items : List WorkspaceItem} (hx : x.report? = some items) :
    viewAfter (h ++ [x]) = (viewAfter h).receive items := by
  simp [viewAfter, List.filterMap_append, hx]

/-- Without a report the client shows what it did. -/
theorem viewAfter_append_of_no_report {h : List Happening} {x : Happening}
    (hx : x.report? = none) : viewAfter (h ++ [x]) = viewAfter h := by
  simp [viewAfter, List.filterMap_append, hx]

/-- What a report is made of. -/
inductive Reports (o : Orchestrator) : Stage → Orchestrator → List WorkspaceItem → Prop
  /-- The pass is lost, and nothing is reported. -/
  | lost : Reports o (.passed none) o []
  | pass (pass : Pass) :
      Reports o (.passed (some pass)) { o with reported := o.reportedAfter pass } (o.report pass)

/-- What is noted stays, unless a query is answered. -/
theorem Effect.reported {q : Query} {isOpen : Prop} {stage next : Stage}
    (h : Effect o q isOpen stage o' next) (hnext : ∀ answer, next ≠ .answered answer) :
    o'.reported = o.reported := by
  cases h with
  | answered _ _ _ => exact absurd rfl (hnext _)
  | taken _ _ | read | confirmed _ _ _ | missed _ | queued | entered _ | began _ | passing _ _ _
  | lost _ | published _ => rfl

/-- An answer is a report, or what is noted stays. -/
theorem reports_of_answer {q : Query} {t : FileTree} {stage : Stage} {answer : Answer} {log : Log}
    (h : o.step t q stage = some (o', .answered answer, log)) :
    (o'.reported = o.reported ∧ ∀ items, answer ≠ .workspace items) ∨
      ∃ items, answer = .workspace items ∧ Reports o stage o' items := by
  have heffect : Effect o q False stage o' (.answered answer) := effect_of_step h
  have hconcludes : o.Concludes q stage answer := heffect.concludes
  cases stage with
  | passed found =>
      cases q with
      | document d => cases found <;> cases h <;> exact .inl ⟨rfl, by simp [documentAnswer]⟩
      | workspace =>
          cases found with
          | none =>
              cases h
              exact .inr ⟨_, rfl, .lost⟩
          | some pass =>
              cases h
              exact .inr ⟨_, rfl, .pass pass⟩
  | looked inside found =>
      left
      cases found with
      | some entry => cases q <;> cases h <;> exact ⟨rfl, by simp [documentAnswer]⟩
      | none =>
          cases q with
          | workspace => cases h
          | document d =>
              simp only [step] at h
              split at h
              next => cases h
              next =>
                split at h <;> cases h
                exact ⟨rfl, by simp [documentAnswer]⟩
  | lookup _ | waiting | read _ _ | confirm _ _ _ | discover _ | snapshot _ _ | check _ _ _
  | publish _ _ | answered _ => exact hconcludes.elim

/-- Only reports change what is noted. -/
theorem Step.reports {s s' : Service} {x : Happening} (hstep : Step s x s') :
    (x.report? = none ∧ s'.orchestrator.reported = s.orchestrator.reported) ∨
      ∃ i stage items, x = .moved i stage (.answered (.workspace items)) ∧
        Reports s.orchestrator stage s'.orchestrator items := by
  cases hstep with
  | issue q => exact .inl ⟨rfl, rfl⟩
  | event ev => exact .inl ⟨rfl, by cases ev <;> rfl⟩
  | @move i q stage next o hflight hmove =>
      by_cases hnext : ∃ answer, next = .answered answer
      · obtain ⟨answer, rfl⟩ := hnext
        obtain ⟨t, log, hanswer⟩ := hmove.exists_step
        rcases reports_of_answer hanswer with ⟨hsame, hother⟩ | ⟨items, rfl, hreports⟩
        · refine .inl ⟨?_, hsame⟩
          cases answer with
          | document _ => rfl
          | workspace items => exact absurd rfl (hother items)
        · exact .inr ⟨i, stage, items, rfl, hreports⟩
      · refine .inl ⟨?_, hmove.effect.reported (not_exists.mp hnext)⟩
        cases next with
        | answered answer => exact absurd ⟨answer, rfl⟩ hnext
        | lookup _ | read _ _ | confirm _ _ _ | looked _ _ | waiting | discover _ | snapshot _ _
        | check _ _ _ | publish _ _ | passed _ => rfl

/-- Whatever happens, a client that gets all reports stays in step. -/
theorem Steps.inStep {s : Service} {h : List Happening} (hsteps : Steps ⟨o, []⟩ h s)
    (hnew : o.reported = []) : InStep s.orchestrator (viewAfter h) := by
  induction hsteps with
  | refl => exact ⟨⟨.empty, hnew⟩, fun d => by simp [hnew, viewAfter, View.blank]⟩
  | @next h x s s' hsteps hstep ih =>
      rcases hstep.reports with ⟨hnone, hsame⟩ | ⟨i, stage, items, rfl, hreports⟩
      · rw [viewAfter_append_of_no_report hnone]
        exact ⟨hsame ▸ ih.noted, fun d => by rw [hsame]; exact ih.mem_reported_iff d⟩
      · rw [viewAfter_append_of_report rfl]
        generalize s'.orchestrator = o' at hreports ⊢
        cases hreports with
        | lost => exact ih
        | pass pass => exact ih.receive rfl

/-! ### A file with an issue

For an example: a new orchestrator with one query for a report, whose pass finds one issue. -/

/-- What happens until the report is given. -/
def reportHistory : List Happening :=
  [.issued 0 .workspace, .moved 0 .waiting (.discover firstStart),
    .moved 0 (.discover firstStart) (.snapshot firstStart [samplePath]),
    .moved 0 (.snapshot firstStart [samplePath])
      (.check firstStart [samplePath] firstPass.fingerprints),
    .moved 0 (.check firstStart [samplePath] firstPass.fingerprints)
      (.publish firstStart firstPass),
    .moved 0 (.publish firstStart firstPass) (.passed (some firstPass))]

/-- These are steps of the orchestrator, and the issue is shown after them. -/
theorem steps_reportHistory :
    ∃ s, Steps ⟨{ setup := sampleSetup }, []⟩ reportHistory s ∧
      s.flights[0]? = some ⟨.workspace, .passed (some firstPass)⟩ ∧
      s.orchestrator.setup = sampleSetup := by
  have h₁ := Steps.refl (s := ⟨{ setup := sampleSetup }, []⟩) |>.next (.issue .workspace)
  have h₂ := h₁.next (x := .moved 0 .waiting (.discover firstStart)) (.move rfl (.enter (by
    rintro f (_ | ⟨_, ⟨⟩⟩)
    rfl)))
  have h₃ := h₂.next (x := .moved 0 (.discover firstStart) (.snapshot firstStart [samplePath]))
    (.move rfl (.step sampleTree (by rw [← discover_sampleTree]; rfl)))
  have h₄ := h₃.next (x := .moved 0 (.snapshot firstStart [samplePath])
      (.check firstStart [samplePath] firstPass.fingerprints))
    (.move rfl (.step sampleTree rfl))
  have h₅ := h₄.next (x := .moved 0 (.check firstStart [samplePath] firstPass.fingerprints)
      (.publish firstStart firstPass))
    (.move rfl (.check ⟨firstPass.findings, .done ()⟩))
  have h₆ := h₅.next (x := .moved 0 (.publish firstStart firstPass) (.passed (some firstPass)))
    (.move rfl (.step sampleTree rfl))
  exact ⟨_, h₆, rfl, rfl⟩

/-- **Reports keep a client in step.** Any number of queries may be under way on an orchestrator
that has noted nothing, with any events in between, and passes may come to their end, break off
after any number of findings, or be lost. A client that gets all reports shows issues of exactly
the documents that are noted. A report speaks of each document once, and says that a document has
no issues only if the client shows some. After the report of a complete pass, the client shows of
each document what the pass has found about it; after that of one that broke off, it shows the
same as before of each document without findings; and what it shows is not changed by a pass that
is lost. -/
theorem Steps.client_in_step {s : Service} {h : List Happening} (hsteps : Steps ⟨o, []⟩ h s)
    (hnew : o.reported = []) :
    (∀ d, d ∈ s.orchestrator.reported ↔ viewAfter h d ≠ []) ∧
    ∀ {i : ℕ} {stage : Stage} {items : List WorkspaceItem} {s' : Service},
      Step s (.moved i stage (.answered (.workspace items))) s' →
      (items.map (·.document)).Nodup ∧
      (∀ item ∈ items, item.diagnostics = [] → viewAfter h item.document ≠ []) ∧
      ((stage = .passed none ∧
          viewAfter (h ++ [.moved i stage (.answered (.workspace items))]) = viewAfter h) ∨
        ∃ pass, stage = .passed (some pass) ∧ ∀ d,
          viewAfter (h ++ [.moved i stage (.answered (.workspace items))]) d =
            if pass.isComplete = true ∨ pass.findingsOf d ≠ [] then
              s.orchestrator.setup.presenter.presentAll (pass.findingsOf d)
            else viewAfter h d) := by
  have hinStep : InStep s.orchestrator (viewAfter h) := hsteps.inStep hnew
  refine ⟨hinStep.mem_reported_iff, fun {i stage items s'} hstep => ?_⟩
  rw [viewAfter_append_of_report rfl]
  rcases hstep.reports with ⟨⟨⟩, -⟩ | ⟨_, _, _, ⟨⟩, hreports⟩
  generalize s'.orchestrator = o' at hreports
  cases hreports with
  | lost => exact ⟨List.nodup_nil, by simp, .inl ⟨rfl, rfl⟩⟩
  | pass pass =>
      exact ⟨nodup_documents_report hinStep.noted.nodup, fun item => hinStep.shown_of_cleared,
        .inr ⟨pass, rfl, hinStep.receive_report_eq⟩⟩

/-- The report of the example has one item, and the client shows what it says. -/
theorem client_in_step_of_reportHistory :
    ∃ s items s', Steps ⟨{ setup := sampleSetup }, []⟩ reportHistory s ∧
      Step s (.moved 0 (.passed (some firstPass)) (.answered (.workspace items))) s' ∧
      ∀ d, viewAfter (reportHistory ++
          [.moved 0 (.passed (some firstPass)) (.answered (.workspace items))]) d =
        if d = sampleDocument then sampleSetup.presenter.presentAll firstPass.findings
        else [] := by
  obtain ⟨s, hsteps, hflight, hsetup⟩ := steps_reportHistory
  have hstep : Step s (.moved 0 (.passed (some firstPass))
      (.answered (.workspace (s.orchestrator.report firstPass)))) _ :=
    .move hflight (.step {} rfl)
  refine ⟨s, _, _, hsteps, hstep, fun d => ?_⟩
  obtain ⟨-, -, ⟨⟨⟩, -⟩ | ⟨_, ⟨⟩, hview⟩⟩ := (hsteps.client_in_step rfl).2 hstep
  have hdocument : DocumentUri.ofPath? samplePath = some sampleDocument := by decide
  rw [hview d, if_pos (.inl rfl), hsetup]
  split
  next h => simp [h, firstPass, Pass.findingsOf, Finding.uri?, hdocument]
  next h => simp [firstPass, Pass.findingsOf, Finding.uri?, hdocument, Ne.symm h,
    Presenter.presentAll]

end Orchestrator

end PullDiagnostics
