import Mathlib.Data.List.Induction
import PullDiagnostics.Server.Session

/-!
# Settings of a session and what it runs

A session keeps its settings beside the setup that they have led to. Settings that come later and
are accepted take the place of both. A client that starts a session again gets none of its own:
the roots and the setup stay those of the first start. But the settings are replaced by those of
the new start, and from then on they may lead to another setup than the one that there is.

## Main results

* `settings_foldl_of_isIdle`: messages that are passed over leave the settings.
* `inStep_iff_restarts_alike`: after which messages the setup is that of the settings and the
  roots, and what a message that is passed over and a repeated start leave alone.
-/

namespace PullDiagnostics.Session

open Protocol (SessionStart)

/-- What a client sends that bears on settings. -/
inductive Message where
  /-- The client starts a session; the files are as in the tree. -/
  | start (t : FileTree) (p : SessionStart)
  /-- The client sends settings. -/
  | configured (layer : Json)

/-- A session after a message. -/
def apply (s : Session) : Message → Session
  | .start t p => (s.start t p).1
  | .configured layer => (s.configured layer).1

/-- A session after messages, with engines for all settings. -/
def run (engines : Settings → Engine) (messages : List Message) : Session :=
  messages.foldl apply { engines }

/-- The last message is applied last. -/
theorem run_concat (engines : Settings → Engine) (messages : List Message) (m : Message) :
    run engines (messages ++ [m]) = (run engines messages).apply m := by
  simp [run]

/-- The setup of a session, once there is one. -/
def setup? (s : Session) : Option Setup :=
  s.orchestrator.map (·.setup)

/-- Whether the setup, once there is one, is that of the settings and the roots. -/
def InStep (s : Session) : Prop :=
  ∀ setup ∈ s.setup?, setup = (s.setupFor s.settings).1

/-- The settings that a client starts with. -/
def settingsAt (t : FileTree) (p : SessionStart) : Settings :=
  (startSettings t (rootsOf p).1 p.initializationOptions).1

/-- Whether a message is passed over when the settings are as given: it brings no object, or one
that is refused. -/
def Message.IsIdle (settings : Settings) : Message → Prop
  | .start _ _ => False
  | .configured layer =>
      (∀ members, layer ≠ .object members) ∨ ∃ e, settings.overlay layer = .error e

/-! ### What a message does -/

/-- The setup that settings lead to depends on the engines and the roots alone. -/
theorem setupFor_eq {s s' : Session} (hengines : s.engines = s'.engines)
    (hroots : s.roots = s'.roots) (settings : Settings) :
    s.setupFor settings = s'.setupFor settings := by
  simp only [setupFor, hengines, hroots]

/-- No message changes how engines are made from settings. -/
theorem engines_apply (s : Session) (m : Message) : (s.apply m).engines = s.engines := by
  cases m with
  | start t p => simp only [apply, start]; split <;> rfl
  | configured layer =>
      simp only [apply, configured]
      split
      · rfl
      · split
        · split <;> rfl
        · rfl

/-- Roots that are known stay. -/
theorem knownRoots_apply {s : Session} {roots : List FilePath} (h : s.knownRoots = some roots)
    (m : Message) : (s.apply m).knownRoots = some roots := by
  cases m with
  | start t p => simp only [apply, start, h, Option.getD_some]; split <;> rfl
  | configured layer =>
      simp only [apply, configured]
      split
      · exact h
      · split
        · split <;> exact h
        · exact h

/-- The first start makes the setup of its own settings. -/
theorem inStep_apply_start {s : Session} (h : s.orchestrator = none) (t : FileTree)
    (p : SessionStart) : (s.apply (.start t p)).InStep := by
  have hstart : (s.apply (.start t p)).settings = settingsAt t p ∧
      (s.apply (.start t p)).orchestrator =
        some { setup := ((s.apply (.start t p)).setupFor (settingsAt t p)).1 } := by
    simp only [apply, start, h]
    exact ⟨rfl, rfl⟩
  intro setup hsetup
  rw [setup?, hstart.2] at hsetup
  rw [hstart.1]
  exact (Option.some.inj hsetup).symm

/-- Another start replaces the settings and nothing else that a setup is made of. -/
theorem apply_start_of_some {s : Session} {o : Orchestrator} (h : s.orchestrator = some o)
    (t : FileTree) (p : SessionStart) :
    (s.apply (.start t p)).settings = settingsAt t p ∧
      (s.apply (.start t p)).orchestrator = some o := by
  simp only [apply, start, h, settingsAt]
  trivial

/-- Settings sent before the first start are passed over. -/
theorem apply_configured_of_none {s : Session} (h : s.orchestrator = none) (layer : Json) :
    s.apply (.configured layer) = s := by
  simp only [apply, configured, h]

/-- Settings that are accepted make their own setup. -/
theorem inStep_apply_configured {s : Session} {o : Orchestrator} (h : s.orchestrator = some o)
    {members : List (String × Json)} {settings : Settings}
    (haccepted : s.settings.overlay (.object members) = .ok settings) :
    (s.apply (.configured (.object members))).InStep := by
  have hafter : s.apply (.configured (.object members)) =
      { s with settings, orchestrator := some (o.reconfigure (s.setupFor settings).1).1 } := by
    simp only [apply, configured, h, haccepted]
  rw [hafter]
  intro setup hsetup
  exact (Option.some.inj hsetup).symm

/-- A message that is passed over only drops what is cached. -/
theorem apply_of_isIdle {s : Session} {o : Orchestrator} (ho : s.orchestrator = some o)
    {m : Message} (h : m.IsIdle s.settings) :
    s.apply m = { s with orchestrator := some o.configurationChanged.1 } := by
  cases m with
  | start t p => exact h.elim
  | configured layer =>
      cases layer with
      | object members =>
          obtain ⟨e, hrefused⟩ := h.resolve_left fun hobject => hobject members rfl
          simp only [apply, configured, ho, hrefused]
      | null | bool _ | number _ | string _ | array _ => simp only [apply, configured, ho]

/-- A message that is passed over leaves the settings and the setup. -/
theorem settings_apply_of_isIdle {s : Session} {m : Message} (h : m.IsIdle s.settings) :
    (s.apply m).settings = s.settings ∧ (s.apply m).setup? = s.setup? := by
  cases ho : s.orchestrator with
  | none =>
      cases m with
      | start t p => exact h.elim
      | configured layer => rw [apply_configured_of_none ho]; exact ⟨rfl, rfl⟩
  | some o =>
      rw [apply_of_isIdle ho h, setup?, setup?, ho]
      exact ⟨rfl, rfl⟩

/-- Messages that are passed over leave the settings. -/
theorem settings_foldl_of_isIdle {s : Session} {messages : List Message}
    (h : ∀ m ∈ messages, m.IsIdle s.settings) :
    (messages.foldl apply s).settings = s.settings := by
  induction messages generalizing s with
  | nil => rfl
  | cons m rest ih =>
      have hm : (s.apply m).settings = s.settings :=
        (settings_apply_of_isIdle (h m (List.mem_cons_self ..))).1
      rw [List.foldl_cons, ih, hm]
      intro m' hm'
      rw [hm]
      exact h m' (List.mem_cons_of_mem m hm')

/-! ### What messages do -/

/-- In every session engines are made from settings in the same way. -/
theorem engines_run (engines : Settings → Engine) (messages : List Message) :
    (run engines messages).engines = engines := by
  induction messages using List.reverseRecOn with
  | nil => rfl
  | append_singleton messages m ih => rw [run_concat, engines_apply, ih]

/-- Once there is a setup the roots are known. -/
theorem exists_knownRoots_run {engines : Settings → Engine} {messages : List Message}
    (h : (run engines messages).setup? ≠ none) :
    ∃ roots, (run engines messages).knownRoots = some roots := by
  induction messages using List.reverseRecOn with
  | nil => exact absurd rfl h
  | append_singleton messages m ih =>
      rw [run_concat] at h ⊢
      by_cases hbefore : (run engines messages).setup? = none
      · have hnone : (run engines messages).orchestrator = none := Option.map_eq_none_iff.mp hbefore
        cases m with
        | start t p =>
            simp only [apply, start, hnone]
            exact ⟨_, rfl⟩
        | configured layer =>
            rw [apply_configured_of_none hnone] at h
            exact absurd hbefore h
      · obtain ⟨roots, hroots⟩ := ih hbefore
        exact ⟨roots, knownRoots_apply hroots m⟩

/-- Once there is a setup, a message does not change which setup settings lead to. -/
theorem setupFor_run_concat {engines : Settings → Engine} {messages : List Message}
    (h : (run engines messages).setup? ≠ none) (m : Message) (settings : Settings) :
    (run engines (messages ++ [m])).roots = (run engines messages).roots ∧
    (run engines (messages ++ [m])).setupFor settings =
      (run engines messages).setupFor settings := by
  obtain ⟨roots, hroots⟩ := exists_knownRoots_run h
  have hsame : (run engines (messages ++ [m])).roots = (run engines messages).roots := by
    rw [run_concat, Session.roots, Session.roots, knownRoots_apply hroots m, hroots]
  exact ⟨hsame, setupFor_eq (by rw [engines_run, engines_run]) hsame settings⟩

/-- A session that has a setup keeps one. -/
theorem setup?_apply_ne_none {s : Session} (h : s.setup? ≠ none) (m : Message) :
    (s.apply m).setup? ≠ none := by
  obtain ⟨o, ho⟩ : ∃ o, s.orchestrator = some o :=
    Option.ne_none_iff_exists'.mp fun hnone => h (by rw [setup?, hnone]; rfl)
  cases m with
  | start t p => simp [setup?, (apply_start_of_some ho t p).2]
  | configured layer =>
      simp only [apply, configured, ho, setup?]
      split
      · split <;> simp
      · simp

/-- A session that once had a setup has one ever after. -/
theorem setup?_run_append_ne_none {engines : Settings → Engine} {before : List Message}
    (h : (run engines before).setup? ≠ none) (after : List Message) :
    (run engines (before ++ after)).setup? ≠ none := by
  induction after using List.reverseRecOn with
  | nil => simpa using h
  | append_singleton after m ih =>
      rw [← List.append_assoc, run_concat]
      exact setup?_apply_ne_none ih m

/-- After a start and messages that are passed over the settings are those of the start. -/
theorem settings_run_start (engines : Settings → Engine) (before : List Message) {t : FileTree}
    {p : SessionStart} {after : List Message} (h : ∀ m ∈ after, m.IsIdle (settingsAt t p)) :
    (run engines (before ++ .start t p :: after)).settings = settingsAt t p := by
  have hstart : ((run engines before).apply (.start t p)).settings = settingsAt t p := by
    simp only [apply, start, settingsAt]
    split <;> rfl
  have hsplit : run engines (before ++ .start t p :: after) =
      after.foldl apply ((run engines before).apply (.start t p)) := by
    simp [run]
  rw [hsplit, settings_foldl_of_isIdle (hstart.symm ▸ h), hstart]

/-! ### When the setup is that of the settings -/

/-- Whether the last start, if it was not the first one and all that followed was passed over,
leads to the setup that there was. -/
def RestartsAlike (engines : Settings → Engine) (messages : List Message) : Prop :=
  ∀ before t p after setup, messages = before ++ .start t p :: after →
    (run engines before).setup? = some setup → (∀ m ∈ after, m.IsIdle (settingsAt t p)) →
      setup = ((run engines before).setupFor (settingsAt t p)).1

/-- The last start of messages with one more at their end is that one, or one before that is
followed by it. -/
theorem restartsAlike_concat_iff {engines : Settings → Engine} {messages : List Message}
    {m : Message} :
    RestartsAlike engines (messages ++ [m]) ↔
      (∀ t p setup, m = .start t p → (run engines messages).setup? = some setup →
        setup = ((run engines messages).setupFor (settingsAt t p)).1) ∧
      ∀ before t p after setup, messages = before ++ .start t p :: after →
        (run engines before).setup? = some setup → (∀ m ∈ after, m.IsIdle (settingsAt t p)) →
          m.IsIdle (settingsAt t p) →
            setup = ((run engines before).setupFor (settingsAt t p)).1 := by
  constructor
  · intro h
    refine ⟨fun t p setup hm hsetup => h messages t p [] setup (by rw [hm]) hsetup (by simp), ?_⟩
    rintro before t p after setup rfl hsetup hafter hm
    refine h before t p (after ++ [m]) setup (by simp) hsetup fun m' hm' => ?_
    rcases List.mem_append.mp hm' with hm' | hm'
    · exact hafter m' hm'
    · rw [List.mem_singleton.mp hm']
      exact hm
  · rintro ⟨hlast, hearlier⟩ before t p after setup hsplit hsetup hafter
    rcases List.eq_nil_or_concat after with rfl | ⟨after, m', rfl⟩
    · obtain ⟨rfl, hm⟩ := List.append_inj' hsplit rfl
      exact hlast t p setup (List.singleton_inj.mp hm) hsetup
    · rw [List.concat_eq_append, ← List.cons_append, ← List.append_assoc] at hsplit
      obtain ⟨rfl, hm⟩ := List.append_inj' hsplit rfl
      obtain rfl := List.singleton_inj.mp hm
      exact hearlier before t p after setup rfl hsetup (fun m' hm' => hafter m' (by simp [hm']))
        (hafter m (by simp))

/-- After another start the setup is that of the settings if it would be the same anew. -/
theorem inStep_run_concat_start {engines : Settings → Engine} {messages : List Message}
    {o : Orchestrator} (ho : (run engines messages).orchestrator = some o) (t : FileTree)
    (p : SessionStart) :
    (run engines (messages ++ [.start t p])).InStep ↔
      o.setup = ((run engines messages).setupFor (settingsAt t p)).1 := by
  have hsome : (run engines messages).setup? ≠ none := by simp [setup?, ho]
  obtain ⟨hsettings, horchestrator⟩ := apply_start_of_some ho t p
  unfold InStep
  rw [(setupFor_run_concat hsome _ _).2, run_concat, setup?, horchestrator, hsettings]
  simp

/-- A message that is passed over neither brings the setup in step with the settings nor out of
it. -/
theorem inStep_run_concat_of_isIdle {engines : Settings → Engine} {messages : List Message}
    {m : Message} (h : m.IsIdle (run engines messages).settings) :
    (run engines (messages ++ [m])).InStep ↔ (run engines messages).InStep := by
  obtain ⟨hsettings, hsetup⟩ := settings_apply_of_isIdle h
  rw [← run_concat] at hsettings hsetup
  unfold InStep
  rw [hsetup, hsettings]
  refine forall_congr' fun setup => imp_congr_right fun hmem => ?_
  rw [(setupFor_run_concat (Option.ne_none_iff_exists'.mpr ⟨setup, hmem⟩) m _).2]

/-- Settings that are not passed over are accepted. -/
theorem exists_accepted_of_not_isIdle {settings : Settings} {layer : Json}
    (h : ¬ (Message.configured layer).IsIdle settings) :
    ∃ members settings', layer = .object members ∧ settings.overlay layer = .ok settings' := by
  simp only [Message.IsIdle, not_or, not_forall, not_not, not_exists] at h
  obtain ⟨⟨members, rfl⟩, hok⟩ := h
  cases hover : settings.overlay (.object members) with
  | error e => exact absurd hover (hok e)
  | ok settings' => exact ⟨members, settings', rfl, rfl⟩

/-- Where there is no setup there has been no start: the next message leaves the setup, if any, that
of the settings. -/
theorem inStep_run_concat_of_none {engines : Settings → Engine} {messages : List Message}
    (ho : (run engines messages).orchestrator = none) (m : Message) :
    (run engines (messages ++ [m])).InStep ↔ RestartsAlike engines (messages ++ [m]) := by
  have hnone : (run engines messages).setup? = none := by rw [setup?, ho]; rfl
  have hstep : (run engines (messages ++ [m])).InStep := by
    rw [run_concat]
    cases m with
    | start t p => exact inStep_apply_start ho t p
    | configured layer =>
        rw [apply_configured_of_none ho]
        intro setup hsetup
        rw [hnone] at hsetup
        cases hsetup
  refine iff_of_true hstep (restartsAlike_concat_iff.mpr ⟨fun t p setup _ hsetup => ?_, ?_⟩)
  · rw [hnone] at hsetup
    cases hsetup
  · rintro before t p after setup rfl hsetup
    exact absurd hnone (setup?_run_append_ne_none (by simp [hsetup]) _)

/-- Where there is a setup a start has to lead to it. -/
theorem inStep_run_concat_start_iff {engines : Settings → Engine} {messages : List Message}
    {o : Orchestrator} (ho : (run engines messages).orchestrator = some o) (t : FileTree)
    (p : SessionStart) :
    (run engines (messages ++ [.start t p])).InStep ↔
      RestartsAlike engines (messages ++ [.start t p]) := by
  have hsome : (run engines messages).setup? = some o.setup := by rw [setup?, ho]; rfl
  rw [inStep_run_concat_start ho, restartsAlike_concat_iff]
  constructor
  · intro hsame
    refine ⟨fun t' p' setup hm hsetup => ?_, fun _ _ _ _ _ _ _ _ hidle => hidle.elim⟩
    obtain ⟨rfl, rfl⟩ := Message.start.inj hm
    obtain rfl := Option.some.inj (hsome.symm.trans hsetup)
    exact hsame
  · intro h
    exact h.1 t p o.setup rfl hsome

/-- Settings are passed over, or they bring the setup in step. -/
theorem inStep_run_concat_configured_iff {engines : Settings → Engine} {messages : List Message}
    {o : Orchestrator} (ho : (run engines messages).orchestrator = some o)
    (ih : (run engines messages).InStep ↔ RestartsAlike engines messages) (layer : Json) :
    (run engines (messages ++ [.configured layer])).InStep ↔
      RestartsAlike engines (messages ++ [.configured layer]) := by
  rw [restartsAlike_concat_iff]
  by_cases hidle : (Message.configured layer).IsIdle (run engines messages).settings
  · rw [inStep_run_concat_of_isIdle hidle, ih]
    constructor
    · intro h
      exact ⟨fun _ _ _ hm => Message.noConfusion hm,
        fun before t p after setup hsplit hsetup hafter _ =>
          h before t p after setup hsplit hsetup hafter⟩
    · rintro ⟨-, h⟩ before t p after setup rfl hsetup hafter
      rw [settings_run_start engines before hafter] at hidle
      exact h before t p after setup rfl hsetup hafter hidle
  · obtain ⟨members, settings, rfl, haccepted⟩ := exists_accepted_of_not_isIdle hidle
    have hstep := inStep_apply_configured ho haccepted
    rw [← run_concat] at hstep
    refine iff_of_true hstep ⟨fun _ _ _ hm => Message.noConfusion hm, ?_⟩
    rintro before t p after setup rfl - hafter hidle'
    rw [settings_run_start engines before hafter] at hidle
    exact absurd hidle' hidle

/-- The setup is that of the settings and the roots exactly if restarts are alike. -/
theorem inStep_run_iff {engines : Settings → Engine} {messages : List Message} :
    (run engines messages).InStep ↔ RestartsAlike engines messages := by
  induction messages using List.reverseRecOn with
  | nil =>
      constructor
      · intro _ before t p after setup hsplit
        simp at hsplit
      · intro _ setup hsetup
        cases hsetup
  | append_singleton messages m ih =>
      cases ho : (run engines messages).orchestrator with
      | none => exact inStep_run_concat_of_none ho m
      | some o =>
          cases m with
          | start t p => exact inStep_run_concat_start_iff ho t p
          | configured layer => exact inStep_run_concat_configured_iff ho ih layer

/-- **Settings and setup.** Whatever a client sends, and whatever engines settings lead to: the
setup is that of the settings and the roots exactly if the last start, where it was not the first
one and all that followed was passed over, leads to the setup that there was. Settings that are
passed over leave the settings, the roots and the setup as they were, and so does another start
with the roots and the setup, but not with the settings: they are then those of that start. -/
theorem inStep_iff_restarts_alike (engines : Settings → Engine) (messages : List Message) :
    ((run engines messages).InStep ↔
      ∀ before t p after setup, messages = before ++ .start t p :: after →
        (run engines before).setup? = some setup →
          (∀ m ∈ after, m.IsIdle (settingsAt t p)) →
            setup = ((run engines before).setupFor (settingsAt t p)).1) ∧
    ∀ setup, (run engines messages).setup? = some setup → ∀ m,
      (m.IsIdle (run engines messages).settings →
        (run engines (messages ++ [m])).settings = (run engines messages).settings ∧
        (run engines (messages ++ [m])).roots = (run engines messages).roots ∧
        (run engines (messages ++ [m])).setup? = some setup) ∧
      ∀ t p, m = .start t p →
        (run engines (messages ++ [m])).settings = settingsAt t p ∧
        (run engines (messages ++ [m])).roots = (run engines messages).roots ∧
        (run engines (messages ++ [m])).setup? = some setup := by
  refine ⟨inStep_run_iff, fun setup hsetup m => ?_⟩
  have hroots : (run engines (messages ++ [m])).roots = (run engines messages).roots :=
    (setupFor_run_concat (by simp [hsetup]) m {}).1
  rw [hroots, run_concat]
  constructor
  · intro hidle
    obtain ⟨hsettings, hsame⟩ := settings_apply_of_isIdle hidle
    exact ⟨hsettings, rfl, hsame.trans hsetup⟩
  · rintro t p rfl
    obtain ⟨o, ho, rfl⟩ := Option.map_eq_some_iff.mp hsetup
    obtain ⟨hsettings, horchestrator⟩ := apply_start_of_some ho t p
    exact ⟨hsettings, rfl, by rw [setup?, horchestrator]; rfl⟩

/-- A session is started again with another command: its settings name that command, and its
setup runs the one before. -/
theorem restarted_not_inStep :
    ¬ (run (fun settings => .command settings.checker)
      [.start {} {},
        .start {} { initializationOptions := some (.object [("command", .string "javac")]) }]
      ).InStep :=
  fun h => absurd (congrArg Setup.engine (h _ rfl)) (by decide)

end PullDiagnostics.Session
