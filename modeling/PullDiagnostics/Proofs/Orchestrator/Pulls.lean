import PullDiagnostics.Proofs.FileTree.Walks
import PullDiagnostics.Proofs.Orchestrator.SingleFlight
import PullDiagnostics.Server.Environment

/-!
# One document, asked for again and again

While nothing changes, a client may ask for the same document as often as it likes. A query that
finds no entry runs a pass, and the next one finds an entry if the pass has left one. It has not if
it neither met the document among its files nor reported anything about it, or if the file cannot be
read. Whether a pass is run at all depends on the name of the document only, and the name does not
tell whether a walk meets the file: it may be ignored, or not be there. Such a document costs a pass
whenever it is asked for.

## Main results

* `Orchestrator.settle_start`: what a query for a document comes to, up to the engine's check.
* `Steady.answer_of_needsNoPass`, `Steady.answer_of_pass`: what one query does to what all share.
* `Steady.passes_le_iff`: any number of queries for a document runs one pass at most exactly if it
  needs none, or if the first pass leaves an entry for it.
-/

namespace PullDiagnostics

namespace Orchestrator

variable {o o' : Orchestrator} {t : FileTree} {q : Query} {d : DocumentUri} {stage next : Stage}
  {log : Log}

/-! ### Steps with nothing between them -/

/-- With one more unit of fuel, a query makes one more step first. -/
theorem proceed_succ_of_step (fuel : ℕ) (h : o.step t q stage = some (o', next, log)) :
    o.proceed t q (fuel + 1) stage =
      ((o'.proceed t q fuel next).1, (o'.proceed t q fuel next).2.1,
        log ++ (o'.proceed t q fuel next).2.2) := by
  cases stage with
  | waiting => cases h
  | lookup _ | read _ _ | confirm _ _ _ | looked _ _ | discover _ | snapshot _ _ | check _ _ _
  | publish _ _ | passed _ | answered _ => simp only [proceed, h]

/-- A query that cannot make a step stays where it is. -/
theorem proceed_of_no_step (fuel : ℕ) (hwaiting : stage ≠ .waiting)
    (h : o.step t q stage = none) : o.proceed t q fuel stage = (o, stage, []) := by
  cases fuel with
  | zero => rfl
  | succ fuel =>
      cases stage with
      | waiting => exact absurd rfl hwaiting
      | lookup _ | read _ _ | confirm _ _ _ | looked _ _ | discover _ | snapshot _ _ | check _ _ _
      | publish _ _ | passed _ | answered _ => simp only [proceed, h]

/-- Entering the gate brings a query closer to its answer. -/
theorem rank_enter_lt (o : Orchestrator) (q : Query) :
    (o.enter q).2.rank < Stage.waiting.rank := by
  have henter : Move o q True .waiting (o.enter q).1 (o.enter q).2 := .enter trivial
  exact henter.rank_lt

/-- The rank of a stage is fuel enough, and more does nothing. -/
theorem proceed_eq_of_le {bound fuel : ℕ} (hrank : stage.rank ≤ bound) (hfuel : bound ≤ fuel) :
    o.proceed t q fuel stage = o.proceed t q bound stage := by
  induction bound generalizing o stage fuel with
  | zero =>
      have hanswered : ∃ answer, stage = .answered answer := by
        cases stage with
        | answered answer => exact ⟨answer, rfl⟩
        | lookup inside | read inside _ | confirm inside _ _ | looked inside _ =>
            cases inside <;> simp [Stage.rank] at hrank
        | waiting | discover _ | snapshot _ _ | check _ _ _ | publish _ _ | passed _ =>
            simp [Stage.rank] at hrank
      obtain ⟨answer, rfl⟩ := hanswered
      exact proceed_of_no_step fuel (by simp) rfl
  | succ bound ih =>
      obtain ⟨more, rfl⟩ := Nat.exists_eq_add_of_le' (show 1 ≤ fuel by omega)
      by_cases hwaiting : stage = .waiting
      · subst hwaiting
        have hlt : (o.enter q).2.rank < 10 := rank_enter_lt o q
        have hbound : 10 ≤ bound + 1 := hrank
        exact ih (show (o.enter q).2.rank ≤ bound by omega) (show bound ≤ more by omega)
      · cases hstep : o.step t q stage with
        | none => rw [proceed_of_no_step _ hwaiting hstep, proceed_of_no_step _ hwaiting hstep]
        | some result =>
            obtain ⟨o', next, log⟩ := result
            have hlt := rank_lt_of_step hstep
            rw [proceed_succ_of_step _ hstep, proceed_succ_of_step _ hstep,
              ih (by omega) (by omega)]

/-- What a query comes to when nothing comes in between: the engine's check, or its answer. -/
def settle (o : Orchestrator) (t : FileTree) (q : Query) (stage : Stage) : Orchestrator × Stage :=
  ((o.proceed t q stage.rank stage).1, (o.proceed t q stage.rank stage).2.1)

/-- A query comes to the same from one step later. -/
theorem settle_of_step (h : o.step t q stage = some (o', next, log)) :
    o.settle t q stage = o'.settle t q next := by
  have hlt := rank_lt_of_step h
  obtain ⟨fuel, hfuel⟩ := Nat.exists_eq_add_of_le' (Nat.one_le_of_lt hlt)
  rw [settle, hfuel, proceed_succ_of_step fuel h,
    proceed_eq_of_le (o := o') le_rfl (show next.rank ≤ fuel by omega), settle]

/-- A query that waits comes to the same from inside the gate. -/
theorem settle_waiting (o : Orchestrator) (t : FileTree) (q : Query) :
    o.settle t q .waiting = (o.enter q).1.settle t q (o.enter q).2 := by
  have hlt := rank_enter_lt o q
  have hproceed : o.proceed t q Stage.waiting.rank .waiting =
      (o.enter q).1.proceed t q 9 (o.enter q).2 := rfl
  have hrank : (o.enter q).2.rank ≤ 9 := Nat.le_of_lt_succ hlt
  rw [settle, hproceed, proceed_eq_of_le le_rfl hrank, settle]

theorem settle_answered (o : Orchestrator) (t : FileTree) (q : Query) (answer : Answer) :
    o.settle t q (.answered answer) = (o, .answered answer) := rfl

theorem settle_check (o : Orchestrator) (t : FileTree) (q : Query) (start : PassStart)
    (files : List FilePath) (fingerprints : List (FilePath × Fingerprint)) :
    o.settle t q (.check start files fingerprints) = (o, .check start files fingerprints) := rfl

/-! ### What a query for a document comes to -/

/-- A lookup that nothing comes in between. -/
theorem settle_lookup (o : Orchestrator) (t : FileTree) (d : DocumentUri) (inside : Bool) :
    o.settle t (.document d) (.lookup inside) =
      o.settle t (.document d) (.looked inside (o.cache.lookup t d)) := by
  cases hstored : o.cache.stored? d with
  | none =>
      have hstep : o.step t (.document d) (.lookup inside) = some (o, .looked inside none, []) := by
        simp only [step, hstored]
      rw [settle_of_step hstep, Cache.lookup, hstored, Option.bind_none]
  | some entry =>
      have hstep : o.step t (.document d) (.lookup inside) = some (o, .read inside entry, []) := by
        simp only [step, hstored]
      rw [settle_of_step hstep, settle_of_step (by rfl), settle_of_step (by rfl), Cache.lookup,
        hstored, Option.bind_some]

/-- The orchestrator once a pass has begun. -/
def begun (o : Orchestrator) : Orchestrator :=
  { o with passes := o.passes + 1 }

/-- The pass that begins then. -/
def nextStart (o : Orchestrator) : PassStart :=
  ⟨o.setup, o.cache.beginPass, o.passes + 1⟩

/-- The orchestrator once that pass is published. -/
def afterNext (o : Orchestrator) (t : FileTree) (pass : Pass) : Orchestrator :=
  { o.begun with cache := o.cache.publish t o.cache.beginPass pass }

/-- Whether a query for a document is answered without a pass. -/
def NeedsNoPass (o : Orchestrator) (t : FileTree) (d : DocumentUri) : Prop :=
  (o.cache.lookup t d).isSome = true ∨ o.couldBeAnalysed d = false

/-- A query is answered at once from an entry that holds, and if no pass could find the document. -/
theorem settle_start_of_needsNoPass (h : o.NeedsNoPass t d) :
    ∃ answer, o.settle t (.document d) (Query.document d).start = (o, .answered answer) := by
  rw [Query.start, settle_lookup]
  cases hlookup : o.cache.lookup t d with
  | some entry =>
      have hstep : o.step t (.document d) (.looked false (some entry)) =
          some (o, .answered (o.documentAnswer entry.findings), []) := rfl
      exact ⟨_, settle_of_step hstep⟩
  | none =>
      have hcould : o.couldBeAnalysed d = false := h.resolve_left (by simp [hlookup])
      have hstep : o.step t (.document d) (.looked false none) =
          some (o, .answered (o.documentAnswer []), []) := by
        simp only [step, hcould, Bool.false_eq_true, if_false]
      exact ⟨_, settle_of_step hstep⟩

/-- Else it enters the gate, finds nothing there either, and begins a pass. -/
theorem settle_start (h : ¬ o.NeedsNoPass t d) :
    o.settle t (.document d) (Query.document d).start =
      o.begun.settle t (.document d) (.snapshot o.nextStart (o.setup.sources.discover t)) := by
  obtain ⟨hlookup, hcould⟩ := not_or.mp h
  rw [Option.not_isSome_iff_eq_none] at hlookup
  rw [Bool.not_eq_false] at hcould
  have hqueue : o.step t (.document d) (.looked false none) = some (o, .waiting, []) := by
    simp only [step, hcould, Bool.false_eq_true, if_false, if_true]
  calc o.settle t (.document d) (Query.document d).start
      = o.settle t (.document d) (.looked false none) := by rw [Query.start, settle_lookup, hlookup]
    _ = o.settle t (.document d) .waiting := settle_of_step hqueue
    _ = o.settle t (.document d) (.lookup true) := settle_waiting o t (.document d)
    _ = o.settle t (.document d) (.looked true none) := by rw [settle_lookup, hlookup]
    _ = o.begun.settle t (.document d) (.discover o.nextStart) := settle_of_step rfl
    _ = o.begun.settle t (.document d) (.snapshot o.nextStart (o.setup.sources.discover t)) :=
        settle_of_step rfl

/-- A pass that is done is published, and then the query is answered. -/
theorem settle_publish (o : Orchestrator) (t : FileTree) (d : DocumentUri) (pass : Pass) :
    ∃ answer, o.begun.settle t (.document d) (.publish o.nextStart pass) =
      (o.afterNext t pass, .answered answer) := by
  have hpublish : o.begun.step t (.document d) (.publish o.nextStart pass) =
      some (o.afterNext t pass, .passed (some pass), []) := rfl
  have hconclude : (o.afterNext t pass).step t (.document d) (.passed (some pass)) =
      some (o.afterNext t pass,
        .answered ((o.afterNext t pass).documentAnswer (pass.findingsOf d)), []) := rfl
  refine ⟨(o.afterNext t pass).documentAnswer (pass.findingsOf d), ?_⟩
  rw [settle_of_step hpublish, settle_of_step hconclude, settle_answered]

/-- If there are no files, the pass is done before it comes to the engine. -/
theorem settle_snapshot_nil (o : Orchestrator) (t : FileTree) (d : DocumentUri) :
    ∃ answer, o.begun.settle t (.document d) (.snapshot o.nextStart []) =
      (o.afterNext t {}, .answered answer) := by
  have hstep : o.begun.step t (.document d) (.snapshot o.nextStart []) =
      some (o.begun, .publish o.nextStart {}, []) := rfl
  rw [settle_of_step hstep]
  exact settle_publish o t d {}

/-- A pass over some files reads them and comes to the engine's check. -/
theorem settle_snapshot {files : List FilePath} (h : files ≠ []) (o : Orchestrator) (t : FileTree)
    (d : DocumentUri) :
    o.begun.settle t (.document d) (.snapshot o.nextStart files) =
      (o.begun, .check o.nextStart files (Pass.snapshot t files)) := by
  have hstep : o.begun.step t (.document d) (.snapshot o.nextStart files) =
      some (o.begun, .check o.nextStart files (Pass.snapshot t files), []) := by
    simp only [step, List.isEmpty_eq_false_iff.mpr h, Bool.false_eq_true, if_false]
  rw [settle_of_step hstep, settle_check]

end Orchestrator

/-! ### An environment in which nothing changes -/

/-- Whether, in the states of a kind, nothing changes but what the server itself does: the files are
as in a tree, what the server shares is where it was put, and every check of an engine comes to its
end. -/
structure Steady {σ : Type} (env : Environment σ) (place : Place σ Orchestrator) (engine : Engine)
    (t : FileTree) (calm : σ → Prop) : Prop where
  tree_eq : ∀ {s}, calm s → env.tree s = t
  get_set : ∀ o s, place.get (place.set o s) = o
  calm_set : ∀ {s}, calm s → ∀ o, calm (place.set o s)
  get_tell : ∀ log s, place.get (env.tell log s) = place.get s
  calm_tell : ∀ {s}, calm s → ∀ log, calm (env.tell log s)
  ending : ∀ {s}, calm s → ∀ files, (env.check engine files s).1.ending = .done ()
  get_check : ∀ {s}, calm s → ∀ files, place.get (env.check engine files s).2 = place.get s
  calm_check : ∀ {s}, calm s → ∀ files, calm (env.check engine files s).2

/-- What the check reports that a query runs; nothing if it runs none. -/
def Environment.reported {σ : Type} (env : Environment σ) (place : Place σ Orchestrator) (q : Query)
    (s : σ) : List Finding :=
  match env.advance place q q.start s with
  | (.check start files _, s) => (env.check start.setup.engine files s).1.findings
  | _ => []

/-- The state after a number of queries for a document, one after the other. -/
def Environment.pulls {σ : Type} (env : Environment σ) (place : Place σ Orchestrator)
    (d : DocumentUri) (n : ℕ) (s : σ) : σ :=
  (fun s => (env.answer place (.document d) s).2)^[n] s

namespace Steady

variable {σ : Type} {env : Environment σ} {place : Place σ Orchestrator} {setup : Setup}
  {t : FileTree} {calm : σ → Prop} {s : σ} {d : DocumentUri} {ops : List Cache.Operation}

/-- An environment takes a query as far as it comes by itself, and its state stays of the kind.
-/
theorem advance (h : Steady env place setup.engine t calm) (hs : calm s) (q : Query)
    (stage : Stage) :
    (env.advance place q stage s).1 = ((place.get s).settle t q stage).2 ∧
      place.get (env.advance place q stage s).2 = ((place.get s).settle t q stage).1 ∧
      calm (env.advance place q stage s).2 := by
  have htree := h.tree_eq hs
  refine ⟨?_, ?_, ?_⟩
  · simp only [Environment.advance, Environment.update, Orchestrator.settle, htree]
  · simp only [Environment.advance, Environment.update, Orchestrator.settle, htree, h.get_tell,
      h.get_set]
  · exact h.calm_tell (h.calm_set hs _) _

/-- A query that comes to its answer without the engine leaves what it has come to. -/
theorem answer_of_answered (h : Steady env place setup.engine t calm) (hs : calm s) {q : Query}
    {o : Orchestrator} {answer : Answer}
    (hsettle : (place.get s).settle t q q.start = (o, .answered answer)) :
    env.reported place q s = [] ∧ place.get (env.answer place q s).2 = o ∧
      calm (env.answer place q s).2 := by
  obtain ⟨hstage, hget, hcalm⟩ := h.advance hs q q.start
  rw [hsettle] at hstage hget
  simp only [Environment.answer, Environment.finish, Environment.reported]
  generalize env.advance place q q.start s = result at hstage hget hcalm ⊢
  obtain ⟨stage, later⟩ := result
  obtain rfl : stage = .answered answer := hstage
  exact ⟨rfl, hget, hcalm⟩

/-- What a query comes to when the engine has checked the files. -/
theorem finish_check {q : Query} {stage : Stage} {later : σ} {start : PassStart}
    {files : List FilePath} {fingerprints : List (FilePath × Fingerprint)}
    (hadvance : env.advance place q stage s = (.check start files fingerprints, later)) :
    (env.finish place q stage s).2 =
      (env.advance place q
        (Orchestrator.checked start files fingerprints
          (env.check start.setup.engine files later).1).1
        (env.tell
          (Orchestrator.checked start files fingerprints
            (env.check start.setup.engine files later).1).2
          (env.check start.setup.engine files later).2)).2 := by
  simp only [Environment.finish, hadvance, Environment.conclude]

/-- A query that comes to the engine's check leaves what it comes to with the pass that this makes.
-/
theorem answer_of_check (h : Steady env place setup.engine t calm) (hs : calm s)
    {o : Orchestrator} (hsetup : o.setup = setup) {files : List FilePath}
    {fingerprints : List (FilePath × Fingerprint)}
    (hsettle : (place.get s).settle t (.document d) (Query.document d).start =
      (o.begun, .check o.nextStart files fingerprints)) :
    place.get (env.answer place (.document d) s).2 =
        o.afterNext t ⟨files, fingerprints, env.reported place (.document d) s, none⟩ ∧
      calm (env.answer place (.document d) s).2 := by
  obtain ⟨hstage, hget, hcalm⟩ := h.advance hs (.document d) (Query.document d).start
  rw [hsettle] at hstage hget
  rcases hadvance : env.advance place (.document d) (Query.document d).start s with ⟨stage, later⟩
  rw [hadvance] at hstage hget hcalm
  obtain rfl : stage = .check o.nextStart files fingerprints := hstage
  have hengine : o.nextStart.setup.engine = setup.engine := congrArg Setup.engine hsetup
  have hending := h.ending hcalm files
  have hsame := h.get_check hcalm files
  have hstill := h.calm_check hcalm files
  rw [Environment.answer, finish_check hadvance, Environment.reported, hadvance]
  rw [← hengine] at hending hsame hstill
  rcases hcheck : env.check o.nextStart.setup.engine files later with ⟨⟨findings, ending⟩, after⟩
  rw [hcheck] at hending hsame hstill
  obtain rfl : ending = .done () := hending
  obtain ⟨answer, hpublish⟩ :=
    Orchestrator.settle_publish o t d ⟨files, fingerprints, findings, none⟩
  have hchecked : (Orchestrator.checked o.nextStart files fingerprints ⟨findings, .done ()⟩).1 =
      .publish o.nextStart ⟨files, fingerprints, findings, none⟩ := rfl
  obtain ⟨-, hgetEnd, hcalmEnd⟩ := h.advance (h.calm_tell hstill
    (Orchestrator.checked o.nextStart files fingerprints ⟨findings, .done ()⟩).2) (.document d)
    (.publish o.nextStart ⟨files, fingerprints, findings, none⟩)
  rw [h.get_tell, hsame, hget, hpublish] at hgetEnd
  simp only [hcheck, hchecked]
  exact ⟨hgetEnd, hcalmEnd⟩

/-- A query that needs no pass leaves everything as it was. -/
theorem answer_of_needsNoPass (h : Steady env place setup.engine t calm) (hs : calm s)
    (hnone : (place.get s).NeedsNoPass t d) :
    place.get (env.answer place (.document d) s).2 = place.get s ∧
      calm (env.answer place (.document d) s).2 := by
  obtain ⟨answer, hsettle⟩ := Orchestrator.settle_start_of_needsNoPass hnone
  exact (h.answer_of_answered hs hsettle).2

/-- Any other query runs a pass over all sources and publishes it. -/
theorem answer_of_pass (h : Steady env place setup.engine t calm) (hs : calm s)
    (hsetup : (place.get s).setup = setup) (hneeds : ¬ (place.get s).NeedsNoPass t d) :
    ∃ pass : Pass, pass.IsThorough setup.sources t ∧
      pass.findings = env.reported place (.document d) s ∧
      place.get (env.answer place (.document d) s).2 = (place.get s).afterNext t pass ∧
      calm (env.answer place (.document d) s).2 := by
  have hstart := Orchestrator.settle_start hneeds
  rw [hsetup] at hstart
  by_cases hfiles : setup.sources.discover t = []
  · obtain ⟨answer, hsettle⟩ := Orchestrator.settle_snapshot_nil (place.get s) t d
    rw [hfiles, hsettle] at hstart
    obtain ⟨hreported, hget, hcalm⟩ := h.answer_of_answered hs hstart
    exact ⟨{}, ⟨rfl, hfiles.symm, rfl⟩, hreported.symm, hget, hcalm⟩
  · rw [Orchestrator.settle_snapshot hfiles] at hstart
    obtain ⟨hget, hcalm⟩ := h.answer_of_check hs hsetup hstart
    exact ⟨_, ⟨rfl, rfl, rfl⟩, rfl, hget, hcalm⟩

/-! ### Many queries -/

/-- Of several queries the first is answered first. -/
theorem pulls_succ (env : Environment σ) (place : Place σ Orchestrator) (d : DocumentUri) (n : ℕ)
    (s : σ) : env.pulls place d (n + 1) s =
      env.pulls place d n (env.answer place (.document d) s).2 :=
  Function.iterate_succ_apply _ n s

/-- As long as no pass is needed, none is run. -/
theorem get_pulls_of_needsNoPass (h : Steady env place setup.engine t calm) (hs : calm s)
    (hnone : (place.get s).NeedsNoPass t d) (n : ℕ) :
    place.get (env.pulls place d n s) = place.get s := by
  induction n generalizing s with
  | zero => rfl
  | succ n ih =>
      obtain ⟨hget, hcalm⟩ := h.answer_of_needsNoPass hs hnone
      rw [pulls_succ, ih hcalm (hget ▸ hnone), hget]

/-- The next query for a document needs no pass if the pass of this one leaves an entry for it. -/
theorem needsNoPass_afterNext_iff {o : Orchestrator} (hcache : o.cache = Cache.run ops)
    (hneeds : ¬ o.NeedsNoPass t d) {pass : Pass} (hpass : pass.IsThorough setup.sources t) :
    (o.afterNext t pass).NeedsNoPass t d ↔ Leaves setup.sources t pass.findings d := by
  have hcould : ((o.afterNext t pass).couldBeAnalysed d = false) = False :=
    eq_false fun hcould => hneeds (.inr hcould)
  rw [Orchestrator.NeedsNoPass, hcould, or_false, Orchestrator.afterNext, hcache]
  exact isSome_lookup_publish_iff ops hpass

/-- A query for a document that needs a pass costs one, and the next one does too if this pass
leaves no entry. -/
theorem answer_of_not_leaves (h : Steady env place setup.engine t calm) (hs : calm s)
    (hsetup : (place.get s).setup = setup) (hcache : (place.get s).cache = Cache.run ops)
    (hneeds : ¬ (place.get s).NeedsNoPass t d)
    (hleaves : ¬ Leaves setup.sources t (env.reported place (.document d) s) d) :
    ∃ pass, place.get (env.answer place (.document d) s).2 = (place.get s).afterNext t pass ∧
      calm (env.answer place (.document d) s).2 ∧
      ¬ (place.get (env.answer place (.document d) s).2).NeedsNoPass t d := by
  obtain ⟨pass, hpass, hfindings, hget, hcalm⟩ := h.answer_of_pass hs hsetup hneeds
  refine ⟨pass, hget, hcalm, ?_⟩
  rw [hget, needsNoPass_afterNext_iff hcache hneeds hpass, hfindings]
  exact hleaves

/-- A document for which no pass leaves an entry costs a pass whenever it is asked for. -/
theorem passes_pulls_of_not_leaves (h : Steady env place setup.engine t calm)
    (hnever : ∀ {s}, calm s → ¬ Leaves setup.sources t (env.reported place (.document d) s) d)
    (hs : calm s) (hsetup : (place.get s).setup = setup)
    (hcache : (place.get s).cache = Cache.run ops) (hneeds : ¬ (place.get s).NeedsNoPass t d)
    (n : ℕ) : (place.get (env.pulls place d n s)).passes = (place.get s).passes + n := by
  induction n generalizing s ops with
  | zero => rfl
  | succ n ih =>
      obtain ⟨pass, hget, hcalm, hagain⟩ :=
        h.answer_of_not_leaves hs hsetup hcache hneeds (hnever hs)
      have hrun : (place.get (env.answer place (.document d) s).2).cache =
          Cache.run (ops ++ [.publish (Cache.run ops).beginPass t pass]) := by
        rw [hget, Cache.run_append, Orchestrator.afterNext, hcache]
        rfl
      rw [pulls_succ, ih hcalm (by rw [hget]; exact hsetup) hrun hagain, hget]
      exact Nat.succ_add_eq_add_succ (place.get s).passes n

/-- **One document, any number of queries.** While nothing changes and every check comes to its end,
queries for a document that come one after the other run one pass at most exactly if none is needed,
or if the first pass leaves an entry for it: its file can be read, and the pass met it or reported
something about it. -/
theorem passes_le_iff (h : Steady env place (place.get s).setup.engine t calm) (hs : calm s)
    (hcache : (place.get s).cache = Cache.run ops) :
    (∀ n, (place.get (env.pulls place d n s)).passes ≤ (place.get s).passes + 1) ↔
      (place.get s).NeedsNoPass t d ∨
        Leaves (place.get s).setup.sources t (env.reported place (.document d) s) d := by
  constructor
  · intro hle
    by_contra hnot
    obtain ⟨hneeds, hleaves⟩ := not_or.mp hnot
    obtain ⟨pass, hget, hcalm, hagain⟩ := h.answer_of_not_leaves hs rfl hcache hneeds hleaves
    have hsetup : (place.get (env.answer place (.document d) s).2).setup = (place.get s).setup := by
      rw [hget]
      rfl
    obtain ⟨pass', -, -, hget', -⟩ := h.answer_of_pass hcalm hsetup hagain
    have htwo : (place.get (env.pulls place d 2 s)).passes = (place.get s).passes + 2 := by
      have hpulls : env.pulls place d 2 s =
          (env.answer place (.document d) (env.answer place (.document d) s).2).2 := rfl
      rw [hpulls, hget', hget]
      rfl
    have hbound := hle 2
    omega
  · intro hkept n
    by_cases hneeds : (place.get s).NeedsNoPass t d
    · rw [h.get_pulls_of_needsNoPass hs hneeds]
      exact Nat.le_succ _
    · obtain ⟨pass, hpass, hfindings, hget, hcalm⟩ := h.answer_of_pass hs rfl hneeds
      have hleaves := hkept.resolve_left hneeds
      rw [← hfindings, ← needsNoPass_afterNext_iff hcache hneeds hpass, ← hget] at hleaves
      cases n with
      | zero => exact Nat.le_succ _
      | succ n =>
          rw [pulls_succ, h.get_pulls_of_needsNoPass hcalm hleaves, hget]
          exact le_rfl

end Steady

/-! ### A file that is met and one that is ignored

For an example: an environment that is nothing but an orchestrator, with the files of a tree and an
engine that has nothing to report. -/

/-- An environment with the files of a tree, in which there is nothing but an orchestrator. -/
def bareEnvironment (t : FileTree) : Environment Orchestrator where
  tree _ := t
  tell _ o := o
  check _ _ o := (⟨[], .done ()⟩, o)
  version _ o := (.lost, o)

/-- Where the orchestrator is in it. -/
def barePlace : Place Orchestrator Orchestrator where
  get o := o
  set o _ := o

/-- Nothing changes in an environment with nothing but an orchestrator. -/
theorem steady_bareEnvironment (engine : Engine) (t : FileTree) :
    Steady (bareEnvironment t) barePlace engine t fun _ => True where
  tree_eq _ := rfl
  get_set _ _ := rfl
  calm_set _ _ := trivial
  get_tell _ _ := rfl
  calm_tell _ _ := trivial
  ending _ _ := rfl
  get_check _ _ := rfl
  calm_check _ _ := trivial

/-- Nothing is reported in it. -/
theorem reported_bareEnvironment (t : FileTree) (q : Query) (o : Orchestrator) :
    (bareEnvironment t).reported barePlace q o = [] := by
  unfold Environment.reported
  split <;> rfl

open Orchestrator (sampleSetup samplePath sampleDocument sampleTree beforePass)

/-- Without entries a document needs a pass. -/
theorem not_needsNoPass_beforePass (t : FileTree) : ¬ beforePass.NeedsNoPass t sampleDocument := by
  rintro (hlookup | hcould)
  · exact absurd hlookup (by simp [Cache.lookup, beforePass])
  · exact absurd hcould (by decide)

/-- One pass is enough for a file that it meets. -/
theorem passes_le_of_met :
    beforePass.cache = Cache.run [] ∧ ¬ beforePass.NeedsNoPass sampleTree sampleDocument ∧
      ∀ n, (barePlace.get ((bareEnvironment sampleTree).pulls barePlace sampleDocument n
        beforePass)).passes ≤ beforePass.passes + 1 := by
  have hleaves : Leaves beforePass.setup.sources sampleTree
      ((bareEnvironment sampleTree).reported barePlace (.document sampleDocument) beforePass)
      sampleDocument := Orchestrator.findable_sampleDocument.leaves _
  have hempty : (barePlace.get beforePass).cache = Cache.run [] := rfl
  have hpasses := ((steady_bareEnvironment _ sampleTree).passes_le_iff trivial hempty).mpr
    (.inr hleaves)
  exact ⟨hempty, not_needsNoPass_beforePass sampleTree, hpasses⟩

/-- Another file below the root. -/
def otherPath : FilePath :=
  ⟨[FilePath.slash, 0x52, FilePath.slash, 0x42, FilePath.dot, 0x62]⟩

/-- A tree with both files and a rule that the first of them is ignored. -/
def ignoringTree : FileTree :=
  ⟨.directory [([0x52], .directory
    [(Utf8.encode ".ignore".toList, .file (Utf8.encode "/A.b".toList)),
      ([0x41, FilePath.dot, 0x62], .file []), ([0x42, FilePath.dot, 0x62], .file [])])]⟩

/-- What that tree has below the root. -/
def ignoringEntries : List (Bytes × FileNode) :=
  [(Utf8.encode ".ignore".toList, .file (Utf8.encode "/A.b".toList)),
    ([0x41, FilePath.dot, 0x62], .file []), ([0x42, FilePath.dot, 0x62], .file [])]

/-- The rules of the root, read from their one line. -/
def ignoringScope : Ignore.Scope where
  general := (Ignore.readLines ⟨[]⟩ 1 [Utf8.encode "/A.b".toList]).1

theorem load_ignoringTree :
    Ignore.Scope.load ignoringTree ⟨[FilePath.slash, 0x52]⟩ = (ignoringScope, []) := by
  generalize hroot : FilePath.mk [FilePath.slash, 0x52] = root
  have hfind : ignoringTree.find (root.join Ignore.generalFile) =
      .ok (.file (Utf8.encode "/A.b".toList)) := by subst hroot; cbv
  have hgeneral : Ignore.load ignoringTree (root.join Ignore.generalFile) =
      ⟨ignoringScope.general, []⟩ := by
    rw [Ignore.load, hfind]
    rfl
  have hrepository : Ignore.load ignoringTree (root.join Ignore.repositoryFile) = {} := by
    subst hroot; cbv
  have hdata : Ignore.dataDirectory ignoringTree root = .ok (root.join Ignore.repositoryMark) := by
    subst hroot; cbv
  have hexclusions : Ignore.load ignoringTree
      ((root.join Ignore.repositoryMark).join Ignore.exclusionsFile) = {} := by subst hroot; cbv
  have hmark : ignoringTree.contains (root.join Ignore.repositoryMark) = false := by
    subst hroot; cbv
  have hother : ignoringTree.contains (root.join Ignore.otherMark) = false := by subst hroot; cbv
  simp only [Ignore.Scope.load, hgeneral, hrepository, hdata, hexclusions, hmark, hother]
  rfl

/-- The walk meets the file of rules and the file that they do not name. -/
theorem walkFrom_ignoringTree :
    ignoringTree.walkFrom ⟨[FilePath.slash, 0x52]⟩ =
      [.file ⟨FilePath.slash :: 0x52 :: FilePath.slash :: Utf8.encode ".ignore".toList⟩,
        .file otherPath] := by
  have hlocate : ignoringTree.locate ⟨[FilePath.slash, 0x52]⟩ {} = .ok [[0x52]] := by cbv
  have habove : ignoringTree.scopesAbove [[0x52]] = ([{}], []) := by cbv
  have hfiles : ∀ entry ∈ ignoringEntries, ∃ content, ignoringTree.find
      ((FilePath.mk [FilePath.slash, 0x52]).join ⟨entry.1⟩) = .ok (.file content) := by
    rintro entry (_ | ⟨_, _ | ⟨_, _ | ⟨_, ⟨⟩⟩⟩⟩)
    · exact ⟨Utf8.encode "/A.b".toList, by cbv⟩
    · exact ⟨[], by cbv⟩
    · exact ⟨[], by cbv⟩
  have hplace : ignoringTree.root.get? [[0x52]] = some (.directory ignoringEntries) := rfl
  simp only [FileTree.walkFrom, hlocate, habove, load_ignoringTree]
  refine (FileTree.walkInside_of_files (w := ⟨_, [[0x52]], _, _, _⟩) hplace hfiles).trans ?_
  decide +kernel

/-- A pass does not find the ignored file. -/
theorem discover_ignoringTree : sampleSetup.sources.discover ignoringTree = [otherPath] := by
  rw [SourceSet.discover_of_walkFrom rfl (by cbv) walkFrom_ignoringTree]
  decide

/-- The name of the first file does not tell that it is ignored, and each query for it costs a
pass. -/
theorem passes_eq_of_ignored :
    Steady (bareEnvironment ignoringTree) barePlace sampleSetup.engine ignoringTree
        (fun _ => True) ∧
      beforePass.cache = Cache.run [] ∧
      (∀ n, (barePlace.get ((bareEnvironment ignoringTree).pulls barePlace sampleDocument n
        beforePass)).passes = n) ∧
      ¬ ∀ n, (barePlace.get ((bareEnvironment ignoringTree).pulls barePlace sampleDocument n
        beforePass)).passes ≤ beforePass.passes + 1 := by
  have hsteady := steady_bareEnvironment sampleSetup.engine ignoringTree
  have hempty : (barePlace.get beforePass).cache = Cache.run [] := rfl
  have hnever {o : Orchestrator} (_ : True) : ¬ Leaves sampleSetup.sources ignoringTree
      ((bareEnvironment ignoringTree).reported barePlace (.document sampleDocument) o)
      sampleDocument := by
    rintro ⟨-, ⟨p, hp, hpd⟩ | ⟨f, hf, -⟩⟩
    · rw [discover_ignoringTree, List.mem_singleton] at hp
      subst hp
      exact absurd hpd (by decide)
    · rw [reported_bareEnvironment] at hf
      cases hf
  have hpasses (n : ℕ) : (barePlace.get ((bareEnvironment ignoringTree).pulls barePlace
      sampleDocument n beforePass)).passes = n := by
    have hcount := hsteady.passes_pulls_of_not_leaves hnever trivial rfl hempty
      (not_needsNoPass_beforePass ignoringTree) n
    exact hcount.trans (Nat.zero_add n)
  refine ⟨hsteady, hempty, hpasses, fun hle => ?_⟩
  have htwo := hle 2
  rw [hpasses] at htwo
  exact absurd htwo (by decide)

end PullDiagnostics
