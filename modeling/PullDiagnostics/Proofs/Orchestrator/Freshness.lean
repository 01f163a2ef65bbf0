import PullDiagnostics.Proofs.Orchestrator.History

/-!
# Answers are fresh

What a query answers is taken from an entry of the cache or from a pass of its own. Either way
the pass began after all that the client told before the query was issued: an entry of a pass
that began earlier is gone by then, and that pass does not bring it back, for what was made void
since it began is left out when it is published. Only one pass runs at a time, so what it needs
to know of this is not forgotten on account of another.

A lookup takes its entry first and looks again at the end. What it sees then is of the same
publication, and so the same entry.

## Main results

* `Run.pass_begun`: of a pass under way, the cache knows all that was made void since it began.
* `Run.stored_fresh`: each entry comes from a pass that began after the last event that made its
  document void.
* `Run.found_fresh`: what a query has found comes from a pass that began after all that made
  its document void before the query was issued.
* `Run.answer_fresh`: the same of what a query answers, and of the setup of the pass.
-/

namespace PullDiagnostics.Orchestrator

/-! ### Passes of a history -/

/-- A pass that a query has run from its beginning to its publication. -/
structure PassRun where
  query : ℕ
  start : PassStart
  pass : Pass
  begun : ℕ
  published : ℕ

/-- Whether a query begins a pass at some time. -/
def BeginsAt (h : List Happening) (b i : ℕ) (start : PassStart) : Prop :=
  ∃ stage, h[b]? = some (.moved i stage (.discover start))

/-- Whether a document is made void at some time. -/
def VoidedAt (h : List Happening) (d : DocumentUri) (x : ℕ) : Prop :=
  ∃ ev, h[x]? = some (.event ev) ∧ ev.voids d = true

/-- Whether a pass was run in a history. -/
structure PassRun.In (r : PassRun) (h : List Happening) : Prop where
  begins : BeginsAt h r.begun r.query r.start
  publishes : h[r.published]? =
    some (.moved r.query (.publish r.start r.pass) (.passed (some r.pass)))
  begun_lt_published : r.begun < r.published

/-- Whether an entry is what a pass has left of a document: it holds what the pass found, and
the number of the publication. -/
structure PassRun.Left (r : PassRun) (h : List Happening) (d : DocumentUri)
    (entry : CacheEntry) : Prop where
  findings_eq : entry.findings = r.pass.findingsOf d
  publication_eq : entry.publication = (h.take r.published).countP (·.publishes) + 1

/-- Whether an entry comes from a pass that began after all that made its document void before
some time. -/
def FreshAt (h : List Happening) (n : ℕ) (d : DocumentUri) (entry : CacheEntry) : Prop :=
  ∃ r : PassRun, r.In h ∧ r.Left h d entry ∧ ∀ x < n, VoidedAt h d x → x < r.begun

/-- Whether a cache knows of all that was made void since a pass began that was told an
epoch. -/
structure Tracks (c : Cache) (h : List Happening) (b : ℕ) (e : Epoch) : Prop where
  epoch_le : e.number ≤ c.epoch
  voidedSince : ∀ {d x}, VoidedAt h d x → b ≤ x → c.voidedSince d e = true

/-- Whether an event makes void what a query asks for. -/
def Event.Outdates (ev : Event) : Query → Prop
  | .document d => ev.voids d = true
  | .workspace => ∃ d, ev.voids d = true

/-- Whether a query takes its answer from a pass at a stage: from an entry that the pass has
left, or from the pass itself, which it has run. -/
def PassRun.Supplies (r : PassRun) (h : List Happening) (i : ℕ) : Query → Stage → Prop
  | .document d, .looked _ (some entry) => r.Left h d entry
  | _, .passed (some pass) => r.query = i ∧ r.pass = pass
  | _, _ => False

/-! ### One thing more -/

section Append

variable {h : List Happening} {d : DocumentUri} {entry : CacheEntry} {b i n : ℕ}
  {start : PassStart} {r : PassRun} {last : Happening}

/-- What happens later leaves the beginning of a pass where it is. -/
theorem BeginsAt.append (hb : BeginsAt h b i start) : BeginsAt (h ++ [last]) b i start :=
  hb.imp fun _ hstage => getElem?_concat_of_some hstage last

/-- A pass begins at a time of the history. -/
theorem BeginsAt.lt_length (hb : BeginsAt h b i start) : b < h.length :=
  hb.elim fun _ hstage => lt_length_of_getElem? hstage

/-- What is made void in a history is so before the last thing or by it. -/
theorem VoidedAt.of_append {x : ℕ} (hx : VoidedAt (h ++ [last]) d x) :
    VoidedAt h d x ∨ x = h.length ∧ ∃ ev, last = .event ev ∧ ev.voids d = true := by
  obtain ⟨ev, hev, hvoids⟩ := hx
  exact (getElem?_concat_eq_some_iff.mp hev).imp (fun hold => ⟨ev, hold, hvoids⟩)
    fun ⟨hx, hlast⟩ => ⟨hx, ev, hlast, hvoids⟩

/-- A document is made void at a time of the history. -/
theorem VoidedAt.lt_length {x : ℕ} (hx : VoidedAt h d x) : x < h.length :=
  hx.elim fun _ hev => lt_length_of_getElem? hev.1

/-- A pass that was run in a history was run in every longer one. -/
theorem PassRun.In.append (hr : r.In h) : r.In (h ++ [last]) :=
  ⟨hr.begins.append, getElem?_concat_of_some hr.publishes last, hr.begun_lt_published⟩

/-- What a pass has left of a document does not depend on what happens later: publications are
counted up to its own only. -/
theorem PassRun.Left.append (hleft : r.Left h d entry) (hr : r.In h) :
    r.Left (h ++ [last]) d entry := by
  refine ⟨hleft.findings_eq, ?_⟩
  rw [List.take_append_of_le_length (lt_length_of_getElem? hr.publishes).le]
  exact hleft.publication_eq

/-- An entry fresh at a time stays so as the history goes on. -/
theorem FreshAt.append (hentry : FreshAt h n d entry) (hn : n ≤ h.length) :
    FreshAt (h ++ [last]) n d entry := by
  obtain ⟨r, hr, hleft, hfresh⟩ := hentry
  refine ⟨r, hr.append, hleft.append hr, fun x hxn hx => ?_⟩
  rcases hx.of_append with hx | ⟨rfl, -⟩
  · exact hfresh x hxn hx
  · exact absurd hxn (not_lt.mpr hn)

/-- What comes from a pass that began late enough still does so after something that does not
make it void. -/
theorem FreshAt.append_of_not_voids (hentry : FreshAt h h.length d entry)
    (hlast : ∀ ev, last = .event ev → ev.voids d = false) :
    FreshAt (h ++ [last]) (h ++ [last]).length d entry := by
  obtain ⟨r, hr, hleft, hfresh⟩ := hentry
  refine ⟨r, hr.append, hleft.append hr, fun x _ hx => ?_⟩
  rcases hx.of_append with hx | ⟨-, ev, hev, hvoids⟩
  · exact hfresh x hx.lt_length hx
  · exact absurd (hlast ev hev) (by simp [hvoids])

/-- What is no event changes nothing about which documents are void since a pass began. -/
theorem Tracks.append {c : Cache} {e : Epoch} (ht : Tracks c h b e)
    (hlast : ∀ ev, last ≠ .event ev) : Tracks c (h ++ [last]) b e := by
  refine ⟨ht.epoch_le, fun hx hbx => ?_⟩
  rcases hx.of_append with hx | ⟨-, ev, hev, -⟩
  · exact ht.voidedSince hx hbx
  · exact absurd hev (hlast ev)

/-- The cache keeps track of an event too. -/
theorem Tracks.after {o : Orchestrator} {e : Epoch} (ht : Tracks o.cache h b e) (ev : Event) :
    Tracks (o.after ev).cache (h ++ [.event ev]) b e := by
  refine ⟨le_trans ht.epoch_le (epoch_le_epoch_after o ev), fun hx hbx => ?_⟩
  rw [voidedSince_after ht.epoch_le, Bool.or_eq_true]
  rcases hx.of_append with hx | ⟨-, _, ⟨⟩, hvoids⟩
  · exact .inl (ht.voidedSince hx hbx)
  · exact .inr hvoids

/-- When a pass begins, there is nothing to know of. -/
theorem tracks_beginPass (c : Cache) (hlast : ∀ ev, last ≠ .event ev) :
    Tracks c (h ++ [last]) h.length c.beginPass := by
  refine ⟨le_rfl, fun hx hbx => ?_⟩
  rcases hx.of_append with hx | ⟨-, ev, hev, -⟩
  · exact absurd hx.lt_length (not_lt.mpr hbx)
  · exact absurd hev (hlast ev)

end Append

/-! ### Whole histories -/

section Run

variable {o : Orchestrator} {h : List Happening} {s : Service}

/-- The cache counts the publications of the history. -/
theorem Run.publications_eq (hrun : Run o h s) :
    s.orchestrator.cache.publications = h.countP (·.publishes) := by
  induction hrun with
  | start hnew => rw [hnew]; rfl
  | @next h x s s' hrun hstep ih =>
      rw [List.countP_append, ← ih, List.countP_singleton]
      rcases hstep.cache_cases with
        ⟨hcache, hnone, -⟩ | ⟨ev, rfl, hafter⟩ | ⟨_, _, _, _, _, -, rfl, hcache⟩
      · simp [hcache, hnone]
      · simp [hafter, publications_after, Happening.publishes]
      · simp [hcache, Happening.publishes, Cache.publish]

/-- **Passes under way.** Of a pass that is not yet published, the cache knows all that was made
void since the pass began. -/
theorem Run.pass_begun (hrun : Run o h s) {i : ℕ} {q : Query} {stage : Stage}
    {start : PassStart} (hflight : s.flights[i]? = some ⟨q, stage⟩)
    (hstart : stage.start? = some start) :
    ∃ b, BeginsAt h b i start ∧ Tracks s.orchestrator.cache h b start.epoch := by
  induction hrun generalizing i q stage with
  | start hnew => simp at hflight
  | @next h x s s' hrun hstep ih =>
      rcases hstep.flight_cases hflight with
        ⟨hold, hother⟩ | ⟨-, -, rfl⟩ | ⟨stage', hmover, rfl, heffect⟩
      · obtain ⟨b, hb, htracks⟩ := ih hold hstart
        refine ⟨b, hb.append, ?_⟩
        rcases hstep.cache_cases with
          ⟨hcache, -, hx⟩ | ⟨ev, rfl, hafter⟩ | ⟨_, _, _, _, _, hmover, rfl, -⟩
        · exact hcache ▸ htracks.append hx
        · exact hafter ▸ htracks.after ev
        · -- Another query cannot be publishing, for this one is inside the gate.
          obtain rfl := hrun.exclusive hold hmover (Stage.isInside_of_start? hstart) rfl
          exact absurd rfl (hother _ _)
      · cases q <;> cases hstart
      · obtain ⟨hcache, ⟨hstage, -⟩ | ⟨rfl, -, hepoch⟩⟩ := heffect.start? hstart
        · obtain ⟨b, hb, htracks⟩ := ih hmover hstage
          exact ⟨b, hb.append, hcache ▸ htracks.append (by simp)⟩
        · refine ⟨h.length, ⟨stage', by simp⟩, ?_⟩
          rw [hcache, hepoch]
          exact tracks_beginPass _ (by simp)

/-- **Entries are fresh.** Each entry comes from a pass that began after the last event that
made its document void. -/
theorem Run.stored_fresh (hrun : Run o h s) {d : DocumentUri} {entry : CacheEntry}
    (hentry : s.orchestrator.cache.stored? d = some entry) :
    entry.publication ≤ s.orchestrator.cache.publications ∧ FreshAt h h.length d entry := by
  induction hrun with
  | start hnew => simp [hnew] at hentry
  | @next h x s s' hrun hstep ih =>
      rcases hstep.cache_cases with
        ⟨hcache, -, hx⟩ | ⟨ev, rfl, hafter⟩ | ⟨k, q, start, pass, t, hmover, rfl, hcache⟩
      · rw [hcache] at hentry ⊢
        obtain ⟨hle, hfresh⟩ := ih hentry
        exact ⟨hle, hfresh.append_of_not_voids fun ev hev => absurd hev (hx ev)⟩
      · rw [hafter, stored?_after] at hentry
        split at hentry
        next => cases hentry
        next hvoids =>
          obtain ⟨hle, hfresh⟩ := ih hentry
          refine ⟨?_, hfresh.append_of_not_voids ?_⟩
          · rw [hafter, publications_after]
            exact hle
          · rintro _ ⟨⟩
            simpa using hvoids
      · rw [hcache] at hentry ⊢
        obtain ⟨hvoided, -, -, hfindings, hpublication⟩ :=
          Cache.stored?_publish_eq_some_iff.mp hentry
        obtain ⟨b, hb, htracks⟩ := hrun.pass_begun hmover rfl
        refine ⟨hpublication.le, ⟨k, start, pass, b, h.length⟩,
          ⟨hb.append, by simp, hb.lt_length⟩, ⟨hfindings, ?_⟩, fun x _ hx => ?_⟩
        · rw [hpublication, hrun.publications_eq, List.take_left]
        · -- Had the document been made void since, the cache would know of it.
          rcases hx.of_append with hx | ⟨-, _, ⟨⟩, -⟩
          by_contra hlate
          have hlost := htracks.voidedSince hx (not_lt.mp hlate)
          exact absurd (hvoided.symm.trans hlost) Bool.false_ne_true

/-- The entry that a lookup has taken is the only one of its publication that the cache can
have for the document. -/
theorem Run.pending_unique (hrun : Run o h s) {i : ℕ} {q : Query} {stage : Stage}
    {entry : CacheEntry} (hflight : s.flights[i]? = some ⟨q, stage⟩)
    (hpending : stage.pending? = some entry) :
    ∃ d, q = .document d ∧ entry.publication ≤ s.orchestrator.cache.publications ∧
      ∀ current, s.orchestrator.cache.stored? d = some current →
        current.publication = entry.publication → current = entry := by
  induction hrun generalizing i q stage with
  | start hnew => simp at hflight
  | @next h x s s' hrun hstep ih =>
      rcases hstep.flight_cases hflight with
        ⟨hold, -⟩ | ⟨-, -, rfl⟩ | ⟨stage', hmover, rfl, heffect⟩
      · obtain ⟨d, rfl, hle, hunique⟩ := ih hold hpending
        refine ⟨d, rfl, ?_⟩
        rcases hstep.cache_cases with
          ⟨hcache, -, -⟩ | ⟨ev, rfl, hafter⟩ | ⟨_, _, _, _, _, -, -, hcache⟩
        · exact hcache ▸ ⟨hle, hunique⟩
        · rw [hafter, publications_after, stored?_after]
          refine ⟨hle, fun current hcurrent hsame => ?_⟩
          split at hcurrent
          next => cases hcurrent
          next => exact hunique current hcurrent hsame
        · -- All entries are of the new publication then.
          rw [hcache]
          refine ⟨Nat.le_succ_of_le hle, fun current hcurrent hsame => ?_⟩
          have hlater := (Cache.stored?_publish_eq_some_iff.mp hcurrent).2.2.2.2
          omega
      · cases q <;> cases hpending
      · obtain ⟨hsame, hold | ⟨d, rfl, hstored⟩⟩ := heffect.pending? hpending
        · exact hsame ▸ ih hmover hold
        · rw [hsame]
          refine ⟨d, rfl, (hrun.stored_fresh hstored).1, fun current hcurrent _ => ?_⟩
          exact Option.some.inj (hcurrent.symm.trans hstored)

/-- **Lookups are fresh.** What a query has found comes from a pass that began after all that
made its document void before the query was issued. -/
theorem Run.found_fresh (hrun : Run o h s) {i a : ℕ} {q q' : Query} {inside : Bool}
    {entry : CacheEntry} (hflight : s.flights[i]? = some ⟨q, .looked inside (some entry)⟩)
    (hissued : h[a]? = some (.issued i q')) : ∃ d, q = .document d ∧ FreshAt h a d entry := by
  induction hrun generalizing i q with
  | start hnew => simp at hflight
  | @next h x s s' hrun hstep ih =>
      -- The query was issued before, for it is past its start now.
      have hbefore {stage : Stage} (hold : s.flights[i]? = some ⟨q, stage⟩) :
          h[a]? = some (.issued i q') := by
        rcases getElem?_concat_eq_some_iff.mp hissued with hissued | ⟨-, rfl⟩
        · exact hissued
        · cases hstep with
          | issue _ => simp at hold
      rcases hstep.flight_cases hflight with
        ⟨hold, -⟩ | ⟨-, -, hstart⟩ | ⟨stage, hmover, rfl, heffect⟩
      · have hissued := hbefore hold
        obtain ⟨d, rfl, hfresh⟩ := ih hold hissued
        exact ⟨d, rfl, hfresh.append (lt_length_of_getElem? hissued).le⟩
      · cases q <;> cases hstart
      · have ha : a < h.length := lt_length_of_getElem? (hbefore hmover)
        obtain ⟨hpending, d, current, rfl, hstored, hsame⟩ := heffect.found
        obtain ⟨_, ⟨⟩, -, hunique⟩ := hrun.pending_unique hmover hpending
        obtain rfl := hunique current hstored hsame
        obtain ⟨r, hr, hleft, hfresh⟩ := (hrun.stored_fresh hstored).2
        refine ⟨d, rfl, FreshAt.append ⟨r, hr, hleft, fun x hx hvoided => ?_⟩ ha.le⟩
        exact hfresh x (hx.trans ha) hvoided

/-- A query whose pass is done has run it. -/
theorem Run.own_pass (hrun : Run o h s) {i : ℕ} {q : Query} {pass : Pass}
    (hflight : s.flights[i]? = some ⟨q, .passed (some pass)⟩) :
    ∃ r : PassRun, r.In h ∧ r.query = i ∧ r.pass = pass := by
  induction hrun generalizing i q with
  | start hnew => simp at hflight
  | @next h x s s' hrun hstep ih =>
      rcases hstep.flight_cases hflight with
        ⟨hold, -⟩ | ⟨-, -, hstart⟩ | ⟨stage, hmover, rfl, heffect⟩
      · obtain ⟨r, hr, hquery, hpass⟩ := ih hold
        exact ⟨r, hr.append, hquery, hpass⟩
      · cases q <;> cases hstart
      · rcases heffect.cache with ⟨-, hnext⟩ | ⟨start, pass, t, rfl, hnext, -⟩
        · exact absurd rfl (hnext pass)
        · cases hnext
          obtain ⟨b, hb, -⟩ := hrun.pass_begun hmover rfl
          exact ⟨⟨i, start, pass, b, h.length⟩, ⟨hb.append, by simp, hb.lt_length⟩, rfl, rfl⟩

/-- The setup in force is that of the last reconfiguration. -/
theorem Run.setup_renewed (hrun : Run o h s) {x : ℕ} {setup : Setup}
    (hx : h[x]? = some (.event (.reconfigure setup))) :
    ∃ y, x ≤ y ∧ h[y]? = some (.event (.reconfigure s.orchestrator.setup)) := by
  induction hrun with
  | start hnew => simp at hx
  | @next h e s s' hrun hstep ih =>
      have hkeep (hsetup : s'.orchestrator.setup = s.orchestrator.setup)
          (hx : h[x]? = some (.event (.reconfigure setup))) :
          ∃ y, x ≤ y ∧ (h ++ [e])[y]? = some (.event (.reconfigure s'.orchestrator.setup)) := by
        obtain ⟨y, hxy, hy⟩ := ih hx
        exact ⟨y, hxy, hsetup ▸ getElem?_concat_of_some hy e⟩
      rcases getElem?_concat_eq_some_iff.mp hx with hold | ⟨rfl, rfl⟩
      · cases hstep with
        | issue q => exact hkeep rfl hold
        | move hmover hmove => exact hkeep hmove.effect.setup hold
        | event ev =>
            cases ev with
            | reconfigure setup' =>
                exact ⟨h.length, (lt_length_of_getElem? hold).le, by simp [after, reconfigure]⟩
            | opened _ _ | changed _ _ | closed _ | watched _ | configurationChanged =>
                exact hkeep rfl hold
      · cases hstep
        exact ⟨h.length, le_rfl, by simp [after, reconfigure]⟩

/-- A pass runs with the setup that was last put in place when it began. -/
theorem Run.start_setup (hrun : Run o h s) {b i : ℕ} {start : PassStart}
    (hb : BeginsAt h b i start) {x : ℕ} {setup : Setup}
    (hx : h[x]? = some (.event (.reconfigure setup))) (hxb : x < b) :
    ∃ y, x ≤ y ∧ y < b ∧ h[y]? = some (.event (.reconfigure start.setup)) := by
  induction hrun with
  | start hnew => simp at hx
  | @next h e s s' hrun hstep ih =>
      obtain ⟨stage, hstage⟩ := hb
      rcases getElem?_concat_eq_some_iff.mp hstage with hold | ⟨rfl, rfl⟩
      · have hxh : x < h.length := hxb.trans (lt_length_of_getElem? hold)
        rw [List.getElem?_append_left hxh] at hx
        obtain ⟨y, hxy, hyb, hy⟩ := ih ⟨stage, hold⟩ hx
        exact ⟨y, hxy, hyb, getElem?_concat_of_some hy e⟩
      · rw [List.getElem?_append_left hxb] at hx
        obtain ⟨y, hxy, hy⟩ := hrun.setup_renewed hx
        cases hstep with
        | move hmover hmove =>
            obtain ⟨-, ⟨-, hbegun⟩ | ⟨-, hsetup, -⟩⟩ := hmove.effect.start? rfl
            · exact absurd rfl hbegun
            · exact ⟨y, hxy, lt_length_of_getElem? hy, hsetup ▸ getElem?_concat_of_some hy _⟩

/-! ### A document that changes while its query waits

For an example: a query for a document below a root that is not there. It is issued after a
reconfiguration and waits for the gate when the document changes. -/

/-- The pass that the query begins. -/
def sampleStart : PassStart := ⟨sampleSetup, ⟨2⟩, 1⟩

/-- What happens until the query is answered. -/
def sampleHistory : List Happening :=
  [.event (.reconfigure sampleSetup), .issued 0 (.document sampleDocument),
    .moved 0 (.lookup false) (.looked false none), .moved 0 (.looked false none) .waiting,
    .moved 0 .waiting (.lookup true), .event (.changed sampleDocument 1),
    .moved 0 (.lookup true) (.looked true none),
    .moved 0 (.looked true none) (.discover sampleStart),
    .moved 0 (.discover sampleStart) (.snapshot sampleStart []),
    .moved 0 (.snapshot sampleStart []) (.publish sampleStart {}),
    .moved 0 (.publish sampleStart {}) (.passed (some {}))]

/-- This is a run, and the query is answered at its end. -/
theorem run_sampleHistory :
    ∃ s, Run { setup := default } sampleHistory s ∧
      s.flights[0]? = some ⟨.document sampleDocument, .passed (some {})⟩ := by
  have hnowhere : sampleSetup.sources.discover {} = [] := by
    have hroot : FileTree.isDirectory {} ⟨[FilePath.slash, 0x52]⟩ = false := by
      simp [FileTree.isDirectory, FileTree.find, FileTree.locate, FileTree.walk,
        List.splitOn_cons_eq_if_modifyHead, FilePath.isAbsolute, FilePath.isIdle, FilePath.slash,
        FilePath.dot, FileTree.maxPath, FileTree.maxName, FileNode.get?, FileNode.child?]
    simp [SourceSet.discover, SourceSet.filesUnder, sampleSetup, hroot, FilePath.sortedUnion]
  have h₀ := Run.start (o := { setup := default }) rfl
  have h₁ := h₀.next (.event (.reconfigure sampleSetup))
  have h₂ := h₁.next (.issue (.document sampleDocument))
  have h₃ := h₂.next (x := .moved 0 (.lookup false) (.looked false none)) (.move rfl (.step {} rfl))
  have h₄ := h₃.next (x := .moved 0 (.looked false none) .waiting)
    (.move rfl (.step {} rfl))
  have h₅ := h₄.next (x := .moved 0 .waiting (.lookup true)) (.move rfl (.enter (by
    rintro f (_ | ⟨_, ⟨⟩⟩)
    rfl)))
  have h₆ := h₅.next (.event (.changed sampleDocument 1))
  have h₇ := h₆.next (x := .moved 0 (.lookup true) (.looked true none))
    (.move rfl (.step {} rfl))
  have h₈ := h₇.next (x := .moved 0 (.looked true none) (.discover sampleStart))
    (.move rfl (.step {} rfl))
  have h₉ := h₈.next (x := .moved 0 (.discover sampleStart) (.snapshot sampleStart []))
    (.move rfl (.step {} (by rw [← hnowhere]; rfl)))
  have h₁₀ := h₉.next (x := .moved 0 (.snapshot sampleStart []) (.publish sampleStart {}))
    (.move rfl (.step {} rfl))
  have h₁₁ := h₁₀.next (x := .moved 0 (.publish sampleStart {}) (.passed (some {})))
    (.move rfl (.step {} rfl))
  exact ⟨_, h₁₁, rfl⟩

/-- **Answers are fresh.** In any history, a query is about to be answered at some stage. Either
it has found nothing, and is answered so. Or its answer shows what some pass has found, one that
left the entry that the query holds or that the query has run itself; and this pass began after
all that made void what the query asks for before it was issued, with a setup that is none from
before the last reconfiguration by then. -/
theorem Run.answer_fresh (hrun : Run o h s) {i a : ℕ} {q : Query} {stage : Stage}
    {answer : Answer} {s' : Service} (hissued : h[a]? = some (.issued i q))
    (hanswer : Step s (.moved i stage (.answered answer)) s') :
    (stage.isEmptyHanded = true ∧ answer = q.noFindings) ∨
      ∃ r : PassRun, r.In h ∧ r.Supplies h i q stage ∧
        (s.orchestrator.concludePass q (some r.pass)).2.1 = .answered answer ∧
        (∀ x < a, ∀ ev, h[x]? = some (.event ev) → ev.Outdates q → x < r.begun) ∧
        (∀ x < a, ∀ setup, h[x]? = some (.event (.reconfigure setup)) →
          ∃ y, x ≤ y ∧ y < r.begun ∧ h[y]? = some (.event (.reconfigure r.start.setup))) := by
  cases hanswer with
  | @move _ q' _ _ o' hflight hmove =>
      obtain ⟨_, hissued'⟩ := hrun.query_of_issued hissued
      obtain ⟨rfl, -⟩ := Flight.mk.inj (Option.some.inj (hissued'.symm.trans hflight))
      have hconcludes : s.orchestrator.Concludes q stage answer := hmove.effect.concludes
      cases stage with
      | looked inside found =>
          cases found with
          | none => exact .inl ⟨rfl, hconcludes⟩
          | some entry =>
              obtain ⟨d, rfl, r, hr, hleft, hfresh⟩ := hrun.found_fresh hflight hissued
              refine .inr ⟨r, hr, hleft, ?_,
                fun x hx ev hev hvoids => hfresh x hx ⟨ev, hev, hvoids⟩,
                fun x hx setup hsetup => ?_⟩
              · rw [concludePass, ← hleft.findings_eq, hconcludes]
              · exact hrun.start_setup hr.begins hsetup (hfresh x hx ⟨_, hsetup, rfl⟩)
      | passed found =>
          cases found with
          | none => exact .inl ⟨rfl, hconcludes⟩
          | some pass =>
              obtain ⟨r, hr, hquery, rfl⟩ := hrun.own_pass hflight
              have hlater : a < r.begun := hr.begins.elim fun _ hstage =>
                hrun.issued_before_moved hissued (hquery ▸ hstage)
              refine .inr ⟨r, hr, ?_, hconcludes, fun x hx _ _ _ => hx.trans hlater,
                fun x hx setup hsetup => hrun.start_setup hr.begins hsetup (hx.trans hlater)⟩
              cases q <;> exact ⟨hquery, rfl⟩
      | lookup _ | read _ _ | confirm _ _ _ | waiting | discover _ | snapshot _ _ | check _ _ _
      | publish _ _ | answered _ => exact hconcludes.elim

/-- The query of the example is answered from a pass that began after the reconfiguration. -/
theorem answer_fresh_of_sampleHistory :
    ∃ s s', Run { setup := default } sampleHistory s ∧
      sampleHistory[1]? = some (.issued 0 (.document sampleDocument)) ∧
      Step s (.moved 0 (.passed (some {})) (.answered (.document []))) s' ∧
      ∃ r : PassRun, r.In sampleHistory ∧
        r.Supplies sampleHistory 0 (.document sampleDocument) (.passed (some {})) ∧
        0 < r.begun ∧
        ∃ y < r.begun, sampleHistory[y]? = some (.event (.reconfigure r.start.setup)) := by
  obtain ⟨s, hrun, hflight⟩ := run_sampleHistory
  have hissued : sampleHistory[1]? = some (.issued 0 (.document sampleDocument)) := rfl
  have hanswer : Step s (.moved 0 (.passed (some {})) (.answered (.document []))) _ :=
    .move hflight (.step {} rfl)
  refine ⟨s, _, hrun, hissued, hanswer, ?_⟩
  rcases hrun.answer_fresh hissued hanswer with ⟨⟨⟩, -⟩ | ⟨r, hr, hsupplies, -, hfresh, hsetup⟩
  obtain ⟨y, -, hy, hreconfigured⟩ := hsetup 0 Nat.zero_lt_one sampleSetup rfl
  exact ⟨r, hr, hsupplies, hfresh 0 Nat.zero_lt_one _ rfl rfl, y, hy, hreconfigured⟩

end Run

end PullDiagnostics.Orchestrator
