import PullDiagnostics.Proofs.Orchestrator.Client
import PullDiagnostics.Proofs.Versions.Lives

/-!
# Versions in reports

Each item of a workspace report comes with the number of its document, if that is open. Queries
read the numbers and never change them, so however the steps of queries fall between what a client
tells, a report shows what the client's own news lead to.

## Main results

* `Step.versions`, `Steps.versions_eq`: the numbers depend on nothing but the news of a history.
* `tracked_versions`: which number is remembered of a document, and is shown in reports.
-/

namespace PullDiagnostics.Orchestrator

open Versions

/-- The news of documents that an event brings. -/
def Event.news : Event → List (DocumentUri × News)
  | .opened d version => [(d, .opened version)]
  | .changed d version => [(d, .changed version)]
  | .closed d => [(d, .closed)]
  | .watched _ | .configurationChanged | .reconfigure _ => []

/-- The news of documents when something happens. -/
def Happening.news : Happening → List (DocumentUri × News)
  | .event ev => ev.news
  | .issued _ _ | .moved _ _ _ => []

/-- The news of documents in a history, the oldest first. -/
def newsIn (h : List Happening) : List (DocumentUri × News) :=
  h.flatMap Happening.news

/-- To the versions an event is the news that it brings. -/
theorem versions_after (o : Orchestrator) (ev : Event) :
    (o.after ev).versions = ev.news.foldl hear o.versions := by
  cases ev <;> rfl

/-! ### Queries only read -/

/-- A step that a query makes in one go leaves the versions. -/
theorem versions_of_step {o o' : Orchestrator} {q : Query} {t : FileTree} {stage next : Stage}
    {log : Log} (h : o.step t q stage = some (o', next, log)) : o'.versions = o.versions := by
  cases stage with
  | lookup inside =>
      cases q with
      | workspace => cases h
      | document d =>
          simp only [step] at h
          split at h <;> cases h <;> rfl
  | read _ _ | confirm _ _ _ =>
      cases q <;> cases h
      rfl
  | looked inside found =>
      cases found with
      | some entry => cases q <;> cases h <;> rfl
      | none =>
          cases q with
          | workspace => cases h
          | document d =>
              simp only [step] at h
              split at h
              next =>
                cases h
                rfl
              next => split at h <;> cases h <;> rfl
  | snapshot start files =>
      simp only [step] at h
      split at h <;> cases h <;> rfl
  | discover _ | publish _ _ =>
      cases h
      rfl
  | passed found => cases q <;> cases found <;> cases h <;> rfl
  | waiting | check _ _ _ | answered _ => cases h

/-- No step of a query changes a version. -/
theorem Move.versions {o o' : Orchestrator} {q : Query} {isOpen : Prop} {stage next : Stage}
    (h : Move o q isOpen stage o' next) : o'.versions = o.versions := by
  cases h with
  | step t h => exact versions_of_step h
  | enter _ => cases q <;> rfl
  | check _ | lose _ => rfl

variable {o : Orchestrator} {s s' : Service} {h : List Happening} {x : Happening}

/-- Only news change the numbers. -/
theorem Step.versions (hstep : Step s x s') :
    s'.orchestrator.versions = x.news.foldl hear s.orchestrator.versions := by
  cases hstep with
  | issue q => rfl
  | event ev => exact versions_after s.orchestrator ev
  | move _ hmove => exact hmove.versions

/-- The numbers are those that the news so far lead to. -/
theorem Steps.versions_eq (hsteps : Steps ⟨o, []⟩ h s) (hnew : o.versions = {}) :
    s.orchestrator.versions = run (newsIn h) := by
  induction hsteps with
  | refl => exact hnew
  | next hsteps hstep ih =>
      rw [hstep.versions, ih, newsIn, newsIn, List.flatMap_append, List.flatMap_singleton,
        run_append]

/-- An item of a report has the number of its document. -/
theorem Step.version_of_mem_report {i : ℕ} {stage : Stage} {items : List WorkspaceItem}
    (hstep : Step s (.moved i stage (.answered (.workspace items))) s') {item : WorkspaceItem}
    (hitem : item ∈ items) : item.version = s.orchestrator.versions.get? item.document := by
  rcases hstep.reports with ⟨⟨⟩, -⟩ | ⟨_, _, _, ⟨⟩, hreports⟩
  generalize s'.orchestrator = o' at hreports
  cases hreports with
  | lost => simp at hitem
  | pass pass => exact congrArg (·.version) (mem_report_iff.mp hitem).1

/-! ### A document under three spellings

For an example: while the pass of `reportHistory` runs, its document is opened and changed twice,
each time under another spelling of its name; the second change comes late. -/

/-- What is told of the document. -/
def spelledNews : List (String × News) :=
  [("file:///R/A.b", .opened 3), ("file:/R/./A.b", .changed 5), ("/R/A.b", .changed 4)]

/-- What happens then. -/
def spelledEvents : List Happening :=
  [.event (.opened sampleDocument 3), .event (.changed sampleDocument 5),
    .event (.changed sampleDocument 4)]

/-- All spellings name the document, so this is the news in that history. -/
theorem read_spelledNews :
    read DocumentUri.ofString? spelledNews = newsIn (reportHistory ++ spelledEvents) := by
  decide +kernel

/-- The document is opened, and then changed twice. -/
theorem newsOf_spelledNews :
    newsOf sampleDocument (read DocumentUri.ofString? spelledNews) =
      [] ++ [News.opened 3] ++ [News.changed 5] ++ [News.changed 4] := by
  rw [read_spelledNews]
  decide +kernel

/-- The greatest number that counts is that of the first change. -/
theorem isGreatest_spelledNews :
    IsGreatest (counted (newsOf sampleDocument (read DocumentUri.ofString? spelledNews))) 5 := by
  rw [newsOf_spelledNews, counted_append_changed, counted_append_changed, counted_append_opened]
  exact ⟨by simp, by simp [upperBounds_insert]⟩

/-! ### The newest number of a life -/

/-- **The number that is remembered of a document is the newest one of its present life.** Whatever
was told, of any documents under any spellings of their names: no number is remembered of a document
exactly if it was neither opened nor changed since it was closed, or ever; else it is the greatest
among the number of the last opening since then, if there was one, and those of the changes after
it. A change is taken to have come in order exactly if no number that counts is greater than its
own. What is told of other documents changes nothing. And if that is what was told in a history of
an orchestrator, whatever queries are under way, then an item about the document has this number
when it is made, in a report as well. -/
theorem tracked_versions {σ : Type} (document? : σ → Option DocumentUri) (told : List (σ × News))
    (d : DocumentUri) :
    ((run (read document? told)).get? d = none ↔ ¬IsLive (newsOf d (read document? told))) ∧
    (∀ version, (run (read document? told)).get? d = some version ↔
      IsGreatest (counted (newsOf d (read document? told))) version) ∧
    (∀ version, (run (read document? told)).accepts d version = true ↔
      ∀ number ∈ counted (newsOf d (read document? told)), number ≤ version) ∧
    (∀ spelling n, document? spelling ≠ some d →
      (run (read document? (told ++ [(spelling, n)]))).get? d = (run (read document? told)).get? d ∧
      ∀ version, (run (read document? (told ++ [(spelling, n)]))).accepts d version =
        (run (read document? told)).accepts d version) ∧
    ∀ {o : Orchestrator} {h : List Happening} {s : Service}, Steps ⟨o, []⟩ h s → o.versions = {} →
      newsIn h = read document? told →
      (∀ findings, (s.orchestrator.item d findings).version =
        (run (read document? told)).get? d) ∧
      ∀ {i : ℕ} {stage : Stage} {items : List WorkspaceItem} {s' : Service},
        Step s (.moved i stage (.answered (.workspace items))) s' →
        ∀ item ∈ items, item.document = d → item.version = (run (read document? told)).get? d := by
  have hlatest := isLatest_run (read document? told) d
  refine ⟨?_, fun _ => hlatest.eq_some_iff, fun _ => accepts_iff_of_isLatest hlatest, ?_, ?_⟩
  · rw [hlatest.eq_none_iff, isLive_iff_nonempty_counted, Set.not_nonempty_iff_eq_empty]
  · intro spelling n hother
    have hsame : (run (read document? (told ++ [(spelling, n)]))).get? d =
        (run (read document? told)).get? d := by
      unfold Versions.read
      rw [List.filterMap_append, run_append]
      cases hread : document? spelling with
      | none => simp [hread]
      | some e =>
          have hde : d ≠ e := fun hde => hother (hde ▸ hread)
          simpa [hread] using get?_hear_of_ne hde
    exact ⟨hsame, fun version => by rw [accepts, accepts, hsame]⟩
  · intro o h s hsteps hnew htold
    have hversions : s.orchestrator.versions = run (read document? told) :=
      htold ▸ hsteps.versions_eq hnew
    refine ⟨fun _ => congrArg (·.get? d) hversions, fun hstep item hitem hdocument => ?_⟩
    rw [hstep.version_of_mem_report hitem, hdocument, hversions]

/-- The report of the example shows the document with the number of the first change. -/
theorem tracked_versions_of_spelledNews :
    ∃ s items s', Steps ⟨{ setup := sampleSetup }, []⟩ (reportHistory ++ spelledEvents) s ∧
      newsIn (reportHistory ++ spelledEvents) = read DocumentUri.ofString? spelledNews ∧
      Step s (.moved 0 (.passed (some firstPass)) (.answered (.workspace items))) s' ∧
      ∃ item ∈ items, item.document = sampleDocument ∧ item.version = some 5 := by
  obtain ⟨s, hsteps, hflight, -⟩ := steps_reportHistory
  obtain ⟨o, hevents⟩ : ∃ o, Steps ⟨{ setup := sampleSetup }, []⟩ (reportHistory ++ spelledEvents)
      ⟨o, s.flights⟩ := by
    have hlast := ((hsteps.next (.event (.opened sampleDocument 3))).next
      (.event (.changed sampleDocument 5))).next (.event (.changed sampleDocument 4))
    rw [List.append_assoc, List.append_assoc] at hlast
    exact ⟨_, hlast⟩
  have hstep : Step ⟨o, s.flights⟩
      (.moved 0 (.passed (some firstPass)) (.answered (.workspace (o.report firstPass)))) _ :=
    .move hflight (.step {} rfl)
  have hfindings : firstPass.findingsOf sampleDocument ≠ [] := by decide +kernel
  have hitem : o.item sampleDocument (firstPass.findingsOf sampleDocument) ∈ o.report firstPass :=
    mem_report_iff.mpr ⟨rfl, .inl hfindings⟩
  obtain ⟨-, hgreatest, -, -, hshown⟩ :=
    tracked_versions DocumentUri.ofString? spelledNews sampleDocument
  refine ⟨_, _, _, hevents, read_spelledNews.symm, hstep, _, hitem, rfl, ?_⟩
  rw [(hshown hevents rfl read_spelledNews.symm).2 hstep _ hitem rfl]
  exact (hgreatest 5).mpr isGreatest_spelledNews

end PullDiagnostics.Orchestrator
