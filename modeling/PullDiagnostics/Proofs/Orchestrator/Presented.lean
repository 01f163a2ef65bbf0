import PullDiagnostics.Proofs.Orchestrator.Freshness

/-!
# Who presents findings

A pass runs with the setup that there is when it begins. Its findings are presented when a query
is answered, and then by the setup that there is by that time. A reconfiguration can come in
between: while the pass runs, or while a lookup that has found an entry is not answered yet. What
one engine has found is then shown under the name that goes with another, and as wide as the other
setup says.

## Main results

* `Presenter.present_eq_present_iff`: when two presenters show a finding alike.
* `Run.checked`: findings are reported by the engine of the setup that their pass runs with.
* `Run.setup_eq_setupAfter`: which setup there is, some time after a pass began.
* `Run.answer_presented`: by which setup the findings of an answer are presented, and when that
  makes no difference.
-/

namespace PullDiagnostics

/-! ### Presenters -/

/-- The column of a finding whose end is made up, counted from zero: it has a place, but no end that
comes after it. -/
def Finding.openColumn? (f : Finding) : Option Nat :=
  match f.line, f.column with
  | some (_ + 1), some (column + 1) =>
      if f.endColumn.any (column + 1 < ·) then none else some column
  | _, _ => none

namespace Presenter

variable {p p' : Presenter} {f : Finding}

/-- Whether two presenters agree on a finding: they have the same name, and make up the same end for
the finding should it have a place and no end. -/
def AgreeOn (p p' : Presenter) (f : Finding) : Prop :=
  p.source = p'.source ∧ ∀ column, f.openColumn? = some column →
    min (column + p.spanWidth) maxPosition = min (column + p'.spanWidth) maxPosition

/-- Two presenters give a finding one range if they make up one end for it, should it have none. -/
theorem range?_eq_range?_iff :
    p.range? f = p'.range? f ↔ ∀ column, f.openColumn? = some column →
      min (column + p.spanWidth) maxPosition = min (column + p'.spanWidth) maxPosition := by
  unfold range? Finding.openColumn?
  rcases f.line with _ | _ | line <;> rcases f.column with _ | _ | column <;> try simp
  cases f.endColumn with
  | none => simp [stopColumn]
  | some stop => by_cases h : column + 1 < stop <;> simp [stopColumn, h]

/-- **Presenters that show a finding alike** are those that agree on it. -/
theorem present_eq_present_iff : p.present f = p'.present f ↔ p.AgreeOn p' f := by
  rw [AgreeOn, ← range?_eq_range?_iff]
  have hplaced : p.range? f = none ↔ p'.range? f = none := by
    rw [range?_eq_none_iff, range?_eq_none_iff]
  constructor
  · intro h
    refine ⟨congrArg (·.source) h, ?_⟩
    have hrange : (p.range? f).getD documentStart = (p'.range? f).getD documentStart :=
      congrArg (·.range) h
    cases hp : p.range? f with
    | none => exact (hplaced.mp hp).symm
    | some range =>
        cases hp' : p'.range? f with
        | none => exact absurd (hplaced.mpr hp') (by simp [hp])
        | some range' =>
            rw [hp, hp'] at hrange
            exact congrArg some hrange
  · rintro ⟨hsource, hrange⟩
    simp only [present, hsource, hrange]

/-- Two presenters show a list alike if they agree on each of its findings. -/
theorem presentAll_eq_presentAll_iff {findings : List Finding} :
    p.presentAll findings = p'.presentAll findings ↔ ∀ f ∈ findings, p.AgreeOn p' f := by
  simp only [presentAll, List.map_inj_left, present_eq_present_iff]

end Presenter

/-! ### What an answer shows -/

/-- The diagnostics of an answer. -/
def Answer.diagnostics : Answer → List Diagnostic
  | .document diagnostics => diagnostics
  | .workspace items => items.flatMap (·.diagnostics)

/-- The findings of a pass that the answer to a query shows. -/
def Query.shown (q : Query) (pass : Pass) : List Finding :=
  match q with
  | .document d => pass.findingsOf d
  | .workspace => pass.groups.entries.flatMap (·.2)

/-- An answer for want of findings shows none. -/
theorem Query.diagnostics_noFindings (q : Query) : q.noFindings.diagnostics = [] := by
  cases q <;> rfl

namespace Orchestrator

/-- What a report shows are the findings in groups; of the documents that have no issues any more
it shows nothing. -/
theorem diagnostics_report (o : Orchestrator) (pass : Pass) :
    (Answer.workspace (o.report pass)).diagnostics =
      o.setup.presenter.presentAll (Query.workspace.shown pass) := by
  simp [Answer.diagnostics, Query.shown, report, item, Presenter.presentAll, List.flatMap_map,
    List.map_flatMap]

/-- The answer after a pass shows the findings of the pass as the setup presents them that there
is then. -/
theorem diagnostics_of_concludePass {o : Orchestrator} {q : Query} {pass : Pass} {answer : Answer}
    (h : (o.concludePass q (some pass)).2.1 = .answered answer) :
    answer.diagnostics = o.setup.presenter.presentAll (q.shown pass) := by
  cases q with
  | document d =>
      cases h
      rfl
  | workspace =>
      cases h
      exact diagnostics_report o pass

/-! ### The setup of a pass and the setup after it -/

/-- The setup that a happening puts in place. -/
def Happening.renewal? : Happening → Option Setup
  | .event (.reconfigure setup) => some setup
  | .event _ | .issued _ _ | .moved _ _ _ => none

/-- The setup that there is after a history, if there was a given one before. -/
def setupAfter (setup : Setup) (h : List Happening) : Setup :=
  h.foldl (fun setup x => x.renewal?.getD setup) setup

/-- The setup stays until another one is put in place. -/
theorem setupAfter_of_no_renewal {h : List Happening} (hnone : ∀ x ∈ h, x.renewal? = none)
    (setup : Setup) : setupAfter setup h = setup := by
  induction h with
  | nil => rfl
  | cons x rest ih =>
      rw [List.forall_mem_cons] at hnone
      rw [setupAfter, List.foldl_cons, hnone.1]
      exact ih hnone.2

/-- The setup that there is after a history in which a pass was begun. -/
def PassRun.laterSetup (r : PassRun) (h : List Happening) : Setup :=
  setupAfter r.start.setup (h.drop r.begun)

/-- Whether the check of an engine gives a pass at some time. -/
def ChecksAt (h : List Happening) (k i : ℕ) (start : PassStart) (pass : Pass) : Prop :=
  ∃ files fingerprints,
    h[k]? = some (.moved i (.check start files fingerprints) (.publish start pass))

/-- A step leaves the setup, or puts its own in place. -/
theorem Step.setup {s s' : Service} {x : Happening} (hstep : Step s x s') :
    s'.orchestrator.setup = x.renewal?.getD s.orchestrator.setup := by
  cases hstep with
  | issue q => rfl
  | event ev => cases ev <;> rfl
  | move _ hmove => exact hmove.effect.setup

/-- A pass that is about to be published comes from the check of its engine, unless it had no files
to check. -/
theorem Move.checked_of_publish {o o' : Orchestrator} {q : Query} {isOpen : Prop} {stage : Stage}
    {start : PassStart} {pass : Pass} (h : Move o q isOpen stage o' (.publish start pass)) :
    pass = {} ∨ ∃ files fingerprints, stage = .check start files fingerprints := by
  -- It is a pass that goes on, so that it is with the same start.
  obtain ⟨-, ⟨hstart, -⟩ | ⟨⟨⟩, -⟩⟩ := h.effect.start? rfl
  generalize hnext : Stage.publish start pass = next at h
  cases h with
  | step t h =>
      subst hnext
      cases stage with
      | snapshot _ files =>
          simp only [Orchestrator.step] at h
          split at h <;> cases h
          exact .inl rfl
      | discover _ | check _ _ _ | publish _ _ => cases h
      | lookup _ | read _ _ | confirm _ _ _ | looked _ _ | waiting | passed _ | answered _ =>
          cases hstart
  | enter _ => cases hstart
  | check result =>
      cases hstart
      exact .inr ⟨_, _, rfl⟩
  | lose h =>
      subst hnext
      cases stage <;> cases h

variable {o : Orchestrator} {h : List Happening} {s : Service}

/-- What happens later leaves the check of an engine where it is. -/
theorem ChecksAt.append {k i : ℕ} {start : PassStart} {pass : Pass} {last : Happening}
    (hk : ChecksAt h k i start pass) : ChecksAt (h ++ [last]) k i start pass := by
  obtain ⟨files, fingerprints, hchecked⟩ := hk
  exact ⟨files, fingerprints, getElem?_concat_of_some hchecked last⟩

/-- A check is done at a time of the history. -/
theorem ChecksAt.lt_length {k i : ℕ} {start : PassStart} {pass : Pass}
    (hk : ChecksAt h k i start pass) : k < h.length := by
  obtain ⟨_, _, hchecked⟩ := hk
  exact lt_length_of_getElem? hchecked

/-- A pass that waits to be published was given by a check, unless it had no files. -/
theorem Run.checked_of_publish (hrun : Run o h s) {i : ℕ} {q : Query} {start : PassStart}
    {pass : Pass} (hflight : s.flights[i]? = some ⟨q, .publish start pass⟩) (hpass : pass ≠ {}) :
    ∃ k, ChecksAt h k i start pass := by
  induction hrun generalizing i q with
  | start hnew => simp at hflight
  | next hrun hstep ih =>
      cases hstep with
      | issue q' =>
          rcases getElem?_concat_eq_some_iff.mp hflight with hold | ⟨-, hnew⟩
          · exact (ih hold).imp fun _ => ChecksAt.append
          · cases q' <;> cases hnew
      | event ev => exact (ih hflight).imp fun _ => ChecksAt.append
      | move hmover hmove =>
          rcases (getElem?_set_eq_some_iff (lt_length_of_getElem? hmover)).mp hflight with
            ⟨rfl, hmoved⟩ | ⟨-, hold⟩
          · cases hmoved
            rcases hmove.checked_of_publish with hempty | ⟨files, fingerprints, rfl⟩
            · exact absurd hempty hpass
            · exact ⟨_, files, fingerprints, List.getElem?_concat_length⟩
          · exact (ih hold).imp fun _ => ChecksAt.append

/-- **Findings are reported by the engine of their pass**, at its check. -/
theorem Run.checked (hrun : Run o h s) {r : PassRun} (hr : r.In h) (hpass : r.pass ≠ {}) :
    ∃ k < r.published, ChecksAt h k r.query r.start r.pass := by
  induction hrun with
  | start hnew => simpa using hr.publishes
  | @next h x s s' hrun hstep ih =>
      rcases getElem?_concat_eq_some_iff.mp hr.publishes with hold | ⟨hlast, rfl⟩
      · have hbegun : r.begun < h.length :=
          hr.begun_lt_published.trans (lt_length_of_getElem? hold)
        obtain ⟨stage, hstage⟩ := hr.begins
        rw [List.getElem?_append_left hbegun] at hstage
        obtain ⟨k, hk, hchecked⟩ := ih ⟨⟨stage, hstage⟩, hold, hr.begun_lt_published⟩
        exact ⟨k, hk, hchecked.append⟩
      · cases hstep with
        | move hflight hmove =>
            obtain ⟨k, hchecked⟩ := hrun.checked_of_publish hflight hpass
            exact ⟨k, hlast ▸ hchecked.lt_length, hchecked.append⟩

/-- **The setup there is** is the last one that was put in place since a pass began, or else that
of the pass. -/
theorem Run.setup_eq_setupAfter (hrun : Run o h s) {b i : ℕ} {start : PassStart}
    (hb : BeginsAt h b i start) : s.orchestrator.setup = setupAfter start.setup (h.drop b) := by
  induction hrun with
  | start hnew => exact absurd hb.lt_length (Nat.not_lt_zero b)
  | @next h x s s' hrun hstep ih =>
      obtain ⟨stage, hstage⟩ := hb
      rcases getElem?_concat_eq_some_iff.mp hstage with hold | ⟨rfl, rfl⟩
      · rw [List.drop_append_of_le_length (lt_length_of_getElem? hold).le, setupAfter,
          List.foldl_concat, hstep.setup, ih ⟨stage, hold⟩]
        rfl
      · rw [List.drop_left]
        cases hstep with
        | move hmover hmove =>
            obtain ⟨-, ⟨-, hbegun⟩ | ⟨-, hsetup, -⟩⟩ := hmove.effect.start? rfl
            · exact absurd rfl hbegun
            · exact hmove.effect.setup.trans hsetup.symm

/-- At the end of a run there is the setup of the pass, or the last one put in place since. -/
theorem Run.setup_eq_laterSetup (hrun : Run o h s) {r : PassRun} (hr : r.In h) :
    s.orchestrator.setup = r.laterSetup h :=
  hrun.setup_eq_setupAfter hr.begins

/-! ### Answers -/

/-- A query that is answered has nothing, or a pass supplies what it has. -/
theorem Run.supplied (hrun : Run o h s) {i a : ℕ} {q : Query} {stage : Stage} {answer : Answer}
    (hissued : h[a]? = some (.issued i q)) (hflight : s.flights[i]? = some ⟨q, stage⟩)
    (hconcludes : s.orchestrator.Concludes q stage answer) :
    (stage.isEmptyHanded = true ∧ answer = q.noFindings) ∨
      ∃ r : PassRun, r.In h ∧ r.Supplies h i q stage := by
  cases stage with
  | looked inside found =>
      cases found with
      | none => exact .inl ⟨rfl, hconcludes⟩
      | some entry =>
          obtain ⟨d, rfl, r, hr, hleft, -⟩ := hrun.found_fresh hflight hissued
          exact .inr ⟨r, hr, hleft⟩
  | passed found =>
      cases found with
      | none => exact .inl ⟨rfl, hconcludes⟩
      | some pass =>
          obtain ⟨r, hr, hquery, hpass⟩ := hrun.own_pass hflight
          refine .inr ⟨r, hr, ?_⟩
          cases q <;> exact ⟨hquery, hpass⟩
  | lookup _ | read _ _ | confirm _ _ _ | waiting | discover _ | snapshot _ _ | check _ _ _
  | publish _ _ | answered _ => exact hconcludes.elim

/-- What is supplied by a pass is presented by the setup of now. -/
theorem PassRun.Supplies.diagnostics_eq {r : PassRun} {i : ℕ} {q : Query} {stage : Stage}
    {answer : Answer} (hr : r.Supplies h i q stage) (hconcludes : o.Concludes q stage answer) :
    answer.diagnostics = o.setup.presenter.presentAll (q.shown r.pass) := by
  cases stage with
  | looked inside found =>
      cases found with
      | none => cases q <;> exact hr.elim
      | some entry =>
          cases q with
          | workspace => exact hr.elim
          | document d =>
              obtain rfl : answer = o.documentAnswer entry.findings := hconcludes
              rw [Query.shown, ← hr.findings_eq]
              rfl
  | passed found =>
      cases found with
      | none => cases q <;> exact hr.elim
      | some pass =>
          obtain rfl : r.pass = pass := by cases q <;> exact hr.2
          exact diagnostics_of_concludePass hconcludes
  | lookup _ | read _ _ | confirm _ _ _ | waiting | discover _ | snapshot _ _ | check _ _ _
  | publish _ _ | answered _ => exact hconcludes.elim

/-! ### A reconfiguration while a pass runs

For an example: a query for the document below the root runs a pass. While its engine checks the
file, another setup takes the place of the one that the pass runs with. -/

/-- A setup that shows findings under a name. -/
def namedSetup (source : String) (spanWidth : ℕ) : Setup :=
  { sampleSetup with presenter := ⟨source, spanWidth⟩ }

/-- The pass of the query. -/
def renewedStart : PassStart := ⟨namedSetup "first" 10, ⟨0⟩, 1⟩

/-- An issue at the start of the file. -/
def placedFinding : Finding where
  path := samplePath
  line := some 1
  column := some 1
  severity := .error
  message := "broken"

/-- That pass when it is done: it has found this issue. -/
def renewedPass : Pass where
  files := [samplePath]
  fingerprints := Pass.snapshot sampleTree [samplePath]
  findings := [placedFinding]

/-- What happens until the query is answered. -/
def renewedHistory (later : Setup) : List Happening :=
  [.issued 0 (.document sampleDocument), .moved 0 (.lookup false) (.looked false none),
    .moved 0 (.looked false none) .waiting, .moved 0 .waiting (.lookup true),
    .moved 0 (.lookup true) (.looked true none),
    .moved 0 (.looked true none) (.discover renewedStart),
    .moved 0 (.discover renewedStart) (.snapshot renewedStart [samplePath]),
    .moved 0 (.snapshot renewedStart [samplePath])
      (.check renewedStart [samplePath] renewedPass.fingerprints),
    .event (.reconfigure later),
    .moved 0 (.check renewedStart [samplePath] renewedPass.fingerprints)
      (.publish renewedStart renewedPass),
    .moved 0 (.publish renewedStart renewedPass) (.passed (some renewedPass))]

/-- The pass in that history. -/
def renewedRun : PassRun := ⟨0, renewedStart, renewedPass, 5, 10⟩

/-- This is a run of one query, whatever the second setup is. -/
theorem run_renewedHistory (later : Setup) :
    ∃ s s', Run { setup := renewedStart.setup } (renewedHistory later) s ∧
      Step s (.moved 0 (.passed (some renewedPass))
        (.answered (.document (later.presenter.presentAll renewedPass.findings)))) s' := by
  have hfindings : renewedPass.findingsOf sampleDocument = renewedPass.findings := by
    decide +kernel
  have h₀ := Run.start (o := { setup := renewedStart.setup }) rfl
  have h₁ := h₀.next (.issue (.document sampleDocument))
  have h₂ := h₁.next (x := .moved 0 (.lookup false) (.looked false none)) (.move rfl (.step {} rfl))
  have h₃ := h₂.next (x := .moved 0 (.looked false none) .waiting) (.move rfl (.step {} rfl))
  have h₄ := h₃.next (x := .moved 0 .waiting (.lookup true)) (.move rfl (.enter (by
    rintro f (_ | ⟨_, ⟨⟩⟩)
    rfl)))
  have h₅ := h₄.next (x := .moved 0 (.lookup true) (.looked true none)) (.move rfl (.step {} rfl))
  have h₆ := h₅.next (x := .moved 0 (.looked true none) (.discover renewedStart))
    (.move rfl (.step {} rfl))
  have h₇ := h₆.next (x := .moved 0 (.discover renewedStart) (.snapshot renewedStart [samplePath]))
    (.move rfl (.step sampleTree (by rw [← discover_sampleTree]; rfl)))
  have h₈ := h₇.next (x := .moved 0 (.snapshot renewedStart [samplePath])
      (.check renewedStart [samplePath] renewedPass.fingerprints))
    (.move rfl (.step sampleTree rfl))
  have h₉ := h₈.next (.event (.reconfigure later))
  have h₁₀ := h₉.next (x := .moved 0 (.check renewedStart [samplePath] renewedPass.fingerprints)
      (.publish renewedStart renewedPass))
    (.move rfl (.check ⟨renewedPass.findings, .done ()⟩))
  have h₁₁ := h₁₀.next (x := .moved 0 (.publish renewedStart renewedPass)
      (.passed (some renewedPass)))
    (.move rfl (.step sampleTree rfl))
  exact ⟨_, _, h₁₁, .move rfl (.step {} (by rw [← hfindings]; rfl))⟩

/-- The query asks for the document. -/
theorem issued_renewedHistory (later : Setup) :
    (renewedHistory later)[0]? = some (.issued 0 (.document sampleDocument)) :=
  rfl

theorem renewedRun_in (later : Setup) : renewedRun.In (renewedHistory later) :=
  ⟨⟨_, rfl⟩, rfl, by decide⟩

/-- **Findings are presented by the setup that there is when a query is answered**, which need not
be that of the pass that has found them. A query with nothing shows nothing. Else some pass supplies
what is shown, from an entry that it has left or to the query that has run it; unless it had no
files to check, the engine of the setup that it began with has reported its findings. They are shown
in their order by the setup that was last put in place since the pass began, or else by that of the
pass. So they are shown as the setup of the pass would show them exactly if both agree on each of
them, and certainly if no other setup was put in place since the pass began. -/
theorem Run.answer_presented (hrun : Run o h s) {i a : ℕ} {q : Query} {stage : Stage}
    {answer : Answer} {s' : Service} (hissued : h[a]? = some (.issued i q))
    (hanswer : Step s (.moved i stage (.answered answer)) s') :
    (stage.isEmptyHanded = true ∧ answer.diagnostics = []) ∨
      (∃ r : PassRun, r.In h ∧ r.Supplies h i q stage) ∧
      ∀ r : PassRun, r.In h → r.Supplies h i q stage →
        (r.pass ≠ {} → ∃ k < r.published, ChecksAt h k r.query r.start r.pass) ∧
        answer.diagnostics = (r.laterSetup h).presenter.presentAll (q.shown r.pass) ∧
        (answer.diagnostics = r.start.setup.presenter.presentAll (q.shown r.pass) ↔
          ∀ f ∈ q.shown r.pass, (r.laterSetup h).presenter.AgreeOn r.start.setup.presenter f) ∧
        ((∀ x ∈ h.drop r.begun, x.renewal? = none) →
          answer.diagnostics = r.start.setup.presenter.presentAll (q.shown r.pass)) := by
  cases hanswer with
  | @move _ q' _ _ o' hflight hmove =>
      obtain ⟨_, hissued'⟩ := hrun.query_of_issued hissued
      obtain ⟨rfl, -⟩ := Flight.mk.inj (Option.some.inj (hissued'.symm.trans hflight))
      have hconcludes : s.orchestrator.Concludes q stage answer := hmove.effect.concludes
      rcases hrun.supplied hissued hflight hconcludes with ⟨hempty, rfl⟩ | hsupplied
      · exact .inl ⟨hempty, q.diagnostics_noFindings⟩
      · refine .inr ⟨hsupplied, fun r hr hsupplies => ⟨hrun.checked hr, ?_⟩⟩
        rw [← hrun.setup_eq_laterSetup hr, hsupplies.diagnostics_eq hconcludes]
        refine ⟨rfl, Presenter.presentAll_eq_presentAll_iff, fun hnone => ?_⟩
        rw [hrun.setup_eq_laterSetup hr, PassRun.laterSetup, setupAfter_of_no_renewal hnone]

/-- A setup that has another engine but the same presenter shows the finding as the setup of the
pass would. -/
theorem answer_presented_of_renewedHistory :
    ∃ later s s' answer, Run { setup := renewedStart.setup } (renewedHistory later) s ∧
      (renewedHistory later)[0]? = some (.issued 0 (.document sampleDocument)) ∧
      Step s (.moved 0 (.passed (some renewedPass)) (.answered answer)) s' ∧
      later.engine ≠ renewedStart.setup.engine ∧
      answer.diagnostics = renewedStart.setup.presenter.presentAll renewedPass.findings := by
  obtain ⟨s, s', hrun, hanswer⟩ :=
    run_renewedHistory { renewedStart.setup with engine := .provided "second" 1 }
  refine ⟨_, s, s', _, hrun, issued_renewedHistory _, hanswer, by decide, ?_⟩
  obtain ⟨⟨⟩, -⟩ | ⟨-, hpresented⟩ := hrun.answer_presented (issued_renewedHistory _) hanswer
  obtain ⟨-, -, howned, -⟩ := hpresented renewedRun (renewedRun_in _) ⟨rfl, rfl⟩
  exact howned.mpr fun f _ => ⟨rfl, fun _ _ => rfl⟩

/-- **Findings under the name of another setup.** A setup with another name and another width takes
the place of that of the pass: its name and its width are what the answer shows. -/
theorem presented_by_another_setup :
    ∃ s s' diagnostics,
      Run { setup := renewedStart.setup } (renewedHistory (namedSetup "second" 3)) s ∧
      (renewedHistory (namedSetup "second" 3))[0]? = some (.issued 0 (.document sampleDocument)) ∧
      Step s (.moved 0 (.passed (some renewedPass)) (.answered (.document diagnostics))) s' ∧
      renewedRun.In (renewedHistory (namedSetup "second" 3)) ∧
      renewedRun.Supplies (renewedHistory (namedSetup "second" 3)) 0 (.document sampleDocument)
        (.passed (some renewedPass)) ∧
      ChecksAt (renewedHistory (namedSetup "second" 3)) 9 0 renewedStart renewedPass ∧
      diagnostics = [⟨⟨⟨0, 0⟩, ⟨0, 3⟩⟩, .error, none, "second", "broken"⟩] ∧
      renewedStart.setup.presenter.presentAll renewedPass.findings =
        [⟨⟨⟨0, 0⟩, ⟨0, 10⟩⟩, .error, none, "first", "broken"⟩] := by
  obtain ⟨s, s', hrun, hanswer⟩ := run_renewedHistory (namedSetup "second" 3)
  exact ⟨s, s', _, hrun, issued_renewedHistory _, hanswer, renewedRun_in _, ⟨rfl, rfl⟩,
    ⟨_, _, rfl⟩, by decide +kernel, by decide +kernel⟩

end Orchestrator

end PullDiagnostics
