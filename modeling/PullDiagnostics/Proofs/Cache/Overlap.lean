import PullDiagnostics.Proofs.Cache.History

/-!
# Overlapping passes

A pass that is published leaves out what was made void since it began. For this the cache keeps
the time of the last event about each document; a publication drops the times that lie before
its own pass began, for no pass that begins later needs them. A pass that began earlier and is
published later does. So an event is forgotten, and what it took away comes back, exactly when
another pass began after it and was published before.

## Main results

* `get?_voidedAt_run`: which time is kept of a document.
* `voidedSince_run_eq_false_iff`: when a document does not count as void although it is.
* `stored?_publish_eq_none_iff`: when a publication leaves no entry for a document that was made
  void since its pass began.
-/

namespace PullDiagnostics.Cache

/-- Where an element stands in a list with one more at its end. -/
theorem exists_concat_eq_append_cons_iff {α : Type} {l : List α} {x y : α}
    {P : List α → List α → Prop} :
    (∃ a b, l ++ [y] = a ++ x :: b ∧ P a b) ↔
      (y = x ∧ P l []) ∨ ∃ a b, l = a ++ x :: b ∧ P a (b ++ [y]) := by
  constructor
  · rintro ⟨a, b, heq, h⟩
    induction b using List.reverseRecOn with
    | nil =>
        obtain ⟨rfl, hy⟩ := List.append_inj' heq rfl
        exact .inl ⟨List.singleton_inj.mp hy, h⟩
    | append_singleton b z _ =>
        rw [← List.cons_append, ← List.append_assoc] at heq
        obtain ⟨rfl, hy⟩ := List.append_inj' heq rfl
        obtain rfl := List.singleton_inj.mp hy
        exact .inr ⟨a, b, rfl, h⟩
  · rintro (⟨rfl, h⟩ | ⟨a, b, rfl, h⟩)
    · exact ⟨l, [], rfl, h⟩
    · exact ⟨a, b ++ [y], by simp, h⟩

/-- A list with an element that passes a test has a last one. -/
theorem exists_last {α : Type} {p : α → Bool} {l : List α} (h : ∃ x ∈ l, p x = true) :
    ∃ a x b, l = a ++ x :: b ∧ p x = true ∧ ∀ y ∈ b, p y = false := by
  induction l with
  | nil => simp at h
  | cons x rest ih =>
      by_cases hrest : ∃ y ∈ rest, p y = true
      · obtain ⟨a, y, b, rfl, hy, hb⟩ := ih hrest
        exact ⟨x :: a, y, b, rfl, hy, hb⟩
      · have hnone : ∀ y ∈ rest, p y = false := by simpa using hrest
        obtain ⟨y, hy, hpy⟩ := h
        rcases List.mem_cons.mp hy with rfl | hmem
        · exact ⟨[], y, rest, rfl, hpy, hnone⟩
        · exact absurd ⟨y, hmem, hpy⟩ hrest

/-- The last element that passes a test stands at one place only. -/
theorem last_unique {α : Type} {p : α → Bool} {a a' b b' : List α} {x y : α}
    (h : a ++ x :: b = a' ++ y :: b') (hx : p x = true) (hy : p y = true)
    (hb : ∀ z ∈ b, p z = false) (hb' : ∀ z ∈ b', p z = false) : a = a' ∧ b = b' := by
  rcases List.append_eq_append_iff.mp h with ⟨c, rfl, hc⟩ | ⟨c, rfl, hc⟩
  · rcases List.cons_eq_append_iff.mp hc with ⟨rfl, hrest⟩ | ⟨c, rfl, rfl⟩
    · exact ⟨by simp, (List.cons.inj hrest).2.symm⟩
    · exact absurd (hb y (by simp)) (by simp [hy])
  · rcases List.cons_eq_append_iff.mp hc with ⟨rfl, hrest⟩ | ⟨c, rfl, rfl⟩
    · exact ⟨by simp, (List.cons.inj hrest).2⟩
    · exact absurd (hb' x (by simp)) (by simp [hx])

/-- An operation notes a time for a document if it voids it, and keeps the time noted before
unless it voids all or publishes a pass that began later. -/
theorem get?_voidedAt_apply {c : Cache} {op : Operation} {d : DocumentUri} {n : ℕ} :
    (c.apply op).voidedAt.get? d = some n ↔
      (op = .void d ∧ n = c.epoch + 1) ∨
        (op.voids d = false ∧ ∀ e ∈ op.epoch?, e.number < n) ∧ c.voidedAt.get? d = some n := by
  cases op with
  | beginPass => simp [apply, Operation.voids, Operation.epoch?]
  | publish e t pass =>
      simp [apply, publish, Operation.voids, Operation.epoch?, DocumentMap.get?_filter,
        Option.filter_eq_some_iff, and_comm]
  | void e =>
      by_cases he : d = e
      · simp [apply, void, Operation.voids, DocumentMap.get?_put, he, eq_comm]
      · simp [apply, void, Operation.voids, Operation.epoch?, DocumentMap.get?_put, he,
          Ne.symm he]
  | voidAll => simp [apply, voidAll, Operation.voids]

/-- The time that is kept of a document is that of the last event about it, unless all was made
void or a pass that began after the event was published since. -/
theorem get?_voidedAt_run {ops : List Operation} {d : DocumentUri} {n : ℕ} :
    (run ops).voidedAt.get? d = some n ↔
      ∃ a b, ops = a ++ .void d :: b ∧ n = (run a).epoch + 1 ∧
        ∀ op ∈ b, op.voids d = false ∧ ∀ e ∈ op.epoch?, e.number < n := by
  induction ops using List.reverseRecOn with
  | nil => simp [run]
  | append_singleton ops op ih =>
      rw [exists_concat_eq_append_cons_iff, run_append, List.foldl_cons, List.foldl_nil,
        get?_voidedAt_apply, ih]
      simp only [List.not_mem_nil, false_imp_iff, implies_true, and_true, List.mem_append,
        List.mem_singleton, or_imp, forall_and, forall_eq]
      refine or_congr_right ?_
      constructor
      · rintro ⟨⟨hvoids, hepoch⟩, a, b, rfl, hn, hb⟩
        exact ⟨a, b, rfl, hn, ⟨hb.1, hvoids⟩, hb.2, hepoch⟩
      · rintro ⟨a, b, rfl, hn, ⟨hvoids, hvoid⟩, hepochs, hepoch⟩
        exact ⟨⟨hvoid, hepoch⟩, a, b, rfl, hn, hvoids, hepochs⟩

/-- All was made void after some time exactly if an operation since has done it. -/
theorem lt_clearedAt_foldl_iff {c : Cache} {n : ℕ} (hn : n ≤ c.epoch) {ops : List Operation} :
    n < (ops.foldl apply c).clearedAt ↔ n < c.clearedAt ∨ .voidAll ∈ ops := by
  induction ops generalizing c with
  | nil => simp
  | cons op rest ih =>
      rw [List.foldl_cons, ih (le_trans hn (epoch_le_epoch_apply c op))]
      cases op with
      | voidAll => simp [apply, voidAll, Nat.lt_succ_of_le hn]
      | beginPass | publish e t pass | void e => simp [apply, publish, void]

/-! ### Events that are forgotten -/

/-- Whether every pass that is published was told its epoch when it began. -/
def PublishesBegun (ops : List Operation) : Prop :=
  ∀ a e t pass b, ops = a ++ .publish e t pass :: b →
    ∃ x y, a = x ++ .beginPass :: y ∧ e = (run x).beginPass

/-- Whether, since the last event that voids a document, a pass has both begun and been
published. -/
def Overtaken (before during : List Operation) (d : DocumentUri) : Prop :=
  ∃ a b₁ b₂ b₃ t pass,
    during = a ++ .void d :: (b₁ ++ .beginPass :: (b₂ ++
      .publish (run (before ++ .beginPass :: a ++ .void d :: b₁)).beginPass t pass :: b₃)) ∧
    ∀ op ∈ b₁ ++ b₂ ++ b₃, op.voids d = false

/-- Histories that go on have no earlier epoch. -/
theorem epoch_run_le_epoch_run_append (ops more : List Operation) :
    (run ops).epoch ≤ (run (ops ++ more)).epoch := by
  rw [run_append]
  exact epoch_le_epoch_foldl _ _

/-- Making a document void starts a new epoch. -/
theorem epoch_run_lt_epoch_run_void (ops : List Operation) (d : DocumentUri)
    (more : List Operation) :
    (run ops).epoch < (run (ops ++ .void d :: more)).epoch := by
  rw [run_append, List.foldl_cons]
  calc (run ops).epoch < ((run ops).void d).epoch := Nat.lt_succ_self _
    _ ≤ _ := epoch_le_epoch_foldl ((run ops).void d) more

/-- A pass that was told an epoch from after an event began after that event. -/
theorem began_after {ops x y more : List Operation} {d : DocumentUri}
    (h : ops ++ .void d :: more = x ++ .beginPass :: y)
    (hepoch : (run ops).epoch < (run x).epoch) :
    ∃ z, x = ops ++ .void d :: z ∧ more = z ++ .beginPass :: y := by
  rcases List.append_eq_append_iff.mp h with ⟨z, rfl, hz⟩ | ⟨z, rfl, -⟩
  · rcases List.cons_eq_append_iff.mp hz with ⟨rfl, hfirst⟩ | ⟨z, rfl, hmore⟩
    · exact absurd (List.cons.inj hfirst).1 (by simp)
    · exact ⟨z, rfl, hmore⟩
  · exact absurd hepoch (not_lt.mpr (epoch_run_le_epoch_run_append x z))

/-- An event is overtaken by a pass that was told a later epoch and is published. -/
theorem overtaken_of_late {before a b : List Operation} {d : DocumentUri}
    (hbegun : PublishesBegun (before ++ .beginPass :: (a ++ .void d :: b)))
    (hb : ∀ op ∈ b, op.voids d = false) {op : Operation} (hop : op ∈ b) {e : Epoch}
    (he : e ∈ op.epoch?) (hlate : (run (before ++ .beginPass :: a)).epoch < e.number) :
    Overtaken before (a ++ .void d :: b) d := by
  obtain ⟨c, b₃, rfl⟩ := List.append_of_mem hop
  cases op with
  | publish e' t pass =>
      obtain rfl := Option.some.inj he
      obtain ⟨x, y, hx, rfl⟩ := hbegun (before ++ .beginPass :: a ++ .void d :: c) e' t pass b₃
        (by simp)
      obtain ⟨b₁, rfl, rfl⟩ := began_after hx hlate
      refine ⟨a, b₁, y, b₃, t, pass, by simp, fun op hmem => hb op ?_⟩
      simp only [List.mem_append, List.mem_cons] at hmem ⊢
      tauto
  | beginPass | void e' | voidAll => simp [Operation.epoch?] at he

/-- No time is kept of an event that was overtaken. -/
theorem Overtaken.get?_voidedAt_ne {before during : List Operation} {d : DocumentUri}
    (h : Overtaken before during d) (n : ℕ) :
    (run (before ++ .beginPass :: during)).voidedAt.get? d ≠ some n := by
  intro hn
  obtain ⟨a, b₁, b₂, b₃, t, pass, hduring, hclear⟩ := h
  obtain ⟨a', b', hops, rfl, hkept⟩ := get?_voidedAt_run.mp hn
  have hlast : ∀ op ∈ b₁ ++ .beginPass :: (b₂ ++ .publish
      (run (before ++ .beginPass :: a ++ .void d :: b₁)).beginPass t pass :: b₃),
      op.voids d = false := by
    intro op hmem
    simp only [List.mem_append, List.mem_cons] at hmem hclear
    rcases hmem with h | rfl | h | rfl | h
    · exact hclear op (.inl (.inl h))
    · rfl
    · exact hclear op (.inl (.inr h))
    · rfl
    · exact hclear op (.inr h)
  -- The event whose time is kept can only be the last one, but the later pass has dropped it.
  rw [hduring, ← List.cons_append, ← List.append_assoc] at hops
  obtain ⟨rfl, rfl⟩ := last_unique hops (by simp [Operation.voids]) (by simp [Operation.voids])
    hlast fun op hmem => (hkept op hmem).1
  have hdropped := (hkept (.publish (run (before ++ .beginPass :: a ++ .void d :: b₁)).beginPass
    t pass) (by simp)).2 _ rfl
  exact absurd (epoch_run_lt_epoch_run_void (before ++ .beginPass :: a) d b₁)
    (not_lt.mpr (Nat.le_of_lt_succ hdropped))

/-- A document that was made void since a pass began is forgotten to be void exactly if all of
that is due to events about it alone, and the last of these was overtaken. -/
theorem voidedSince_run_eq_false_iff {before during : List Operation}
    (hbegun : PublishesBegun (before ++ .beginPass :: during)) {d : DocumentUri}
    (hvoided : ∃ op ∈ during, op.voids d = true) :
    (run (before ++ .beginPass :: during)).voidedSince d (run before).beginPass = false ↔
      .voidAll ∉ during ∧ Overtaken before during d := by
  have hcleared : (run before).epoch < (run (before ++ .beginPass :: during)).clearedAt ↔
      .voidAll ∈ during := by
    rw [run_append, List.foldl_cons, apply, lt_clearedAt_foldl_iff le_rfl]
    exact or_iff_right (not_lt.mpr (timely_run before).clearedAt_le)
  rw [Bool.eq_false_iff, Ne, voidedSince_iff, not_or, beginPass, hcleared]
  refine and_congr_right fun hall => ?_
  constructor
  · intro hforgotten
    obtain ⟨a, op, b, rfl, hop, hb⟩ := exists_last hvoided
    obtain rfl : op = .void d := by
      cases op with
      | void e => simp_all [Operation.voids]
      | voidAll => exact absurd (by simp) hall
      | beginPass | publish e t pass => simp [Operation.voids] at hop
    have hle : (run before).epoch ≤ (run (before ++ .beginPass :: a)).epoch :=
      epoch_run_le_epoch_run_append before _
    -- The time of the last event would tell, so it is not kept: a later pass was published.
    by_contra hnot
    refine hforgotten ⟨_, get?_voidedAt_run.mpr
      ⟨before ++ .beginPass :: a, b, by simp, rfl, fun op hmem => ⟨hb op hmem, fun e he => ?_⟩⟩,
      Nat.lt_succ_of_le hle⟩
    exact Nat.lt_succ_of_le (not_lt.mp fun hlate =>
      hnot (overtaken_of_late hbegun hb hmem he hlate))
  · rintro hovertaken ⟨n, hn, -⟩
    exact hovertaken.get?_voidedAt_ne n hn

/-- **What comes back.** A pass begins, in the meantime a document is made void, and then the
pass is published. It leaves no entry for the document exactly if it has none to leave, or all
was made void in the meantime, or no other pass has both begun and been published since the
last event about the document. -/
theorem stored?_publish_eq_none_iff {before during : List Operation}
    (hbegun : PublishesBegun (before ++ .beginPass :: during)) {d : DocumentUri}
    (hvoided : ∃ op ∈ during, op.voids d = true) (t : FileTree) (pass : Pass) :
    (run (before ++ .beginPass :: during ++
        [.publish (run before).beginPass t pass])).stored? d = none ↔
      pass.speaksOf d = false ∨ seenFingerprint? t pass d = none ∨ .voidAll ∈ during ∨
        ¬ Overtaken before during d := by
  have hvoid := voidedSince_run_eq_false_iff hbegun hvoided
  rw [run_append, List.foldl_cons, List.foldl_nil, apply]
  constructor
  · intro hnone
    by_contra hnot
    simp only [not_or, not_not, Bool.not_eq_false] at hnot
    obtain ⟨hspeaks, hseen, hall, hovertaken⟩ := hnot
    obtain ⟨fingerprint, hfingerprint⟩ := Option.ne_none_iff_exists'.mp hseen
    have hentry : ((run (before ++ .beginPass :: during)).publish t (run before).beginPass
        pass).stored? d = some ⟨pass.findingsOf d, fingerprint, _⟩ :=
      stored?_publish_eq_some_iff.mpr
        ⟨hvoid.mpr ⟨hall, hovertaken⟩, hspeaks, hfingerprint, rfl, rfl⟩
    exact Option.some_ne_none _ (hentry.symm.trans hnone)
  · intro hcases
    by_contra hsome
    obtain ⟨entry, hentry⟩ := Option.ne_none_iff_exists'.mp hsome
    obtain ⟨hforgotten, hspeaks, hseen, -⟩ := stored?_publish_eq_some_iff.mp hentry
    obtain ⟨hall, hovertaken⟩ := hvoid.mp hforgotten
    rcases hcases with h | h | h | h
    · exact Bool.false_ne_true (h.symm.trans hspeaks)
    · exact Option.some_ne_none _ (hseen.symm.trans h)
    · exact hall h
    · exact h hovertaken

/-- What happens in the example after a first pass has begun: its document is made void,
another pass begins and is published, and all is made void. -/
def voidedMeanwhile : List Operation :=
  [.void oneDocument, .beginPass, .publish ⟨1⟩ {} cleanPass, .voidAll]

/-- What the first pass of the example then publishes is left out. -/
theorem stored?_publish_eq_none_after_voidAll :
    PublishesBegun (.beginPass :: voidedMeanwhile) ∧
      (∃ op ∈ voidedMeanwhile, op.voids oneDocument = true) ∧
      (run (.beginPass :: voidedMeanwhile ++ [.publish ⟨0⟩ {} cleanPass])).stored? oneDocument =
        none := by
  have hbegun : PublishesBegun (.beginPass :: voidedMeanwhile) := by
    intro a e t pass b h
    simp only [voidedMeanwhile, List.cons_eq_append_iff, List.nil_eq, List.append_eq_nil_iff,
      List.cons_ne_nil, reduceCtorEq, and_false, false_and, false_or, List.cons.injEq,
      exists_false, or_false, Operation.publish.injEq] at h
    obtain ⟨_, rfl, _, rfl, _, rfl, rfl, ⟨rfl, -, -⟩, -⟩ := h
    exact ⟨[.beginPass, .void oneDocument], [], rfl, rfl⟩
  have hvoided : ∃ op ∈ voidedMeanwhile, op.voids oneDocument = true :=
    ⟨.voidAll, by simp [voidedMeanwhile], rfl⟩
  have hall : .voidAll ∈ voidedMeanwhile := by simp [voidedMeanwhile]
  exact ⟨hbegun, hvoided, (@stored?_publish_eq_none_iff [] _ hbegun _ hvoided {} cleanPass).mpr
    (.inr (.inr (.inl hall)))⟩

/-- A pass begins, its document is made void, another pass begins and is published, and then
the first one: the document is back, with what was seen before it was made void. -/
theorem overtaken_entry_comes_back :
    (run []).beginPass = ⟨0⟩ ∧ (run [.beginPass, .void oneDocument]).beginPass = ⟨1⟩ ∧
      (run [.beginPass, .void oneDocument, .beginPass, .publish ⟨1⟩ {} cleanPass,
        .publish ⟨0⟩ {} cleanPass]).stored? oneDocument = some ⟨[], ⟨7⟩, 2⟩ := by
  decide

end PullDiagnostics.Cache
