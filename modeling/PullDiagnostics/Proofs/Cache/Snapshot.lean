import PullDiagnostics.Proofs.Cache.History
import PullDiagnostics.Proofs.FileTree.Content
import PullDiagnostics.Proofs.FileTree.Spelling
import PullDiagnostics.Server.Environment

/-!
# Files that change during a pass

An analysis fingerprints its files before the engine begins, so that a file that changes from
then on does not fit its entry. What is noted is noted under the paths that were given. A
publication looks for the path of a document, and where nothing is noted under it, takes the
file as it is by then. That is meant for documents that are not among the files, but it also
happens to a file that could not be read at first, and to one whose path is spelled with dot
segments, which its document has resolved.

## Main results

* `seenFingerprint?_analyse_eq_some_iff`: which fingerprint a document is published with after
  an analysis.
* `stored_snapshot_iff`: when the entry of an analysed file has the fingerprint from before the
  engine began.
* `stored_snapshot_always_iff`: when it has, whatever happens to the files in the meantime.
-/

namespace PullDiagnostics

/-- There are contents with different fingerprints. -/
theorem Fingerprint.ofBytes_nil_ne : Fingerprint.ofBytes [] ≠ Fingerprint.ofBytes [0] := by
  decide +kernel

namespace Pass

/-- A file has a fingerprint if it can be read, and it is that of its bytes. -/
theorem liveFingerprint_eq_ok_iff {t : FileTree} {p : FilePath} {fingerprint : Fingerprint} :
    liveFingerprint t p = .ok fingerprint ↔
      ∃ content, t.read p = .ok content ∧ Fingerprint.ofBytes content = fingerprint := by
  unfold liveFingerprint
  cases t.read p <;> simp [Except.map]

theorem toOption_liveFingerprint_eq_some_iff {t : FileTree} {p : FilePath}
    {fingerprint : Fingerprint} :
    (liveFingerprint t p).toOption = some fingerprint ↔
      liveFingerprint t p = .ok fingerprint := by
  cases liveFingerprint t p <;> simp [Except.toOption]

/-- Spellings of one path that can be read have the same fingerprint. -/
theorem liveFingerprint_eq_of_samePlace {t : FileTree} {p q : FilePath} {a b : Fingerprint}
    (ha : liveFingerprint t p = .ok a) (hb : liveFingerprint t q = .ok b)
    (h : p.samePlace q = true) : a = b := by
  obtain ⟨content, hread, rfl⟩ := liveFingerprint_eq_ok_iff.mp ha
  obtain ⟨content', hread', rfl⟩ := liveFingerprint_eq_ok_iff.mp hb
  rw [FileTree.read_eq_of_samePlace hread hread' h]

/-- A snapshot holds the fingerprint of every listed file that can be read. -/
theorem mem_snapshot {t : FileTree} {files : List FilePath} {p : FilePath}
    {fingerprint : Fingerprint} :
    (p, fingerprint) ∈ snapshot t files ↔ p ∈ files ∧ liveFingerprint t p = .ok fingerprint := by
  simp only [snapshot, List.mem_filterMap, Option.map_eq_some_iff, Prod.mk.injEq]
  constructor
  · rintro ⟨q, hq, _, hlive, rfl, rfl⟩
    exact ⟨hq, toOption_liveFingerprint_eq_some_iff.mp hlive⟩
  · rintro ⟨hp, hlive⟩
    exact ⟨p, hp, fingerprint, toOption_liveFingerprint_eq_some_iff.mpr hlive, rfl, rfl⟩

/-- Whether a file of a list was read under some spelling of a path, with some fingerprint. -/
def ReadAs (t : FileTree) (files : List FilePath) (p : FilePath) (fingerprint : Fingerprint) :
    Prop :=
  ∃ g ∈ files, g.samePlace p = true ∧ liveFingerprint t g = .ok fingerprint

/-- What is found under a path is what was noted under any spelling of it. -/
theorem fingerprint?_eq_some_iff {pass : Pass} {t : FileTree}
    (h : pass.fingerprints = snapshot t pass.files) {p : FilePath} {fingerprint : Fingerprint} :
    pass.fingerprint? p = some fingerprint ↔ ReadAs t pass.files p fingerprint := by
  rw [fingerprint?, h, Option.map_eq_some_iff]
  constructor
  · rintro ⟨⟨g, _⟩, hfind, rfl⟩
    obtain ⟨hg, hlive⟩ := mem_snapshot.mp (List.mem_of_find?_eq_some hfind)
    have hplace := List.find?_some hfind
    exact ⟨g, hg, hplace, hlive⟩
  · rintro ⟨g, hg, hplace, hlive⟩
    -- The first spelling that was noted may be another one, but it was read the same.
    have hnoted : ((snapshot t pass.files).find? fun entry => entry.1.samePlace p).isSome = true :=
      List.find?_isSome.mpr ⟨(g, fingerprint), mem_snapshot.mpr ⟨hg, hlive⟩, hplace⟩
    obtain ⟨⟨q, noted⟩, hfind⟩ := Option.isSome_iff_exists.mp hnoted
    obtain ⟨-, hlive'⟩ := mem_snapshot.mp (List.mem_of_find?_eq_some hfind)
    have hfound := List.find?_some hfind
    have hsame : q.components = g.components :=
      (FilePath.samePlace_iff.mp hfound).trans (FilePath.samePlace_iff.mp hplace).symm
    exact ⟨_, hfind,
      liveFingerprint_eq_of_samePlace hlive' hlive (FilePath.samePlace_iff.mpr hsame)⟩

end Pass

/-- An analysis keeps its files and what they held before the engine began. -/
theorem Environment.analyse_eq_some {σ : Type} {env : Environment σ} {engine : Engine}
    {files : List FilePath} {s s' : σ} {pass : Pass}
    (h : env.analyse engine files s = (some pass, s')) :
    pass.files = files ∧ pass.fingerprints = Pass.snapshot (env.tree s) files := by
  unfold analyse at h
  split at h
  next hempty =>
    obtain rfl : files = [] := List.isEmpty_iff.mp hempty
    obtain ⟨rfl, -⟩ := Prod.mk.inj h |>.imp_left Option.some.inj
    exact ⟨rfl, rfl⟩
  next =>
    exact Pass.files_of_ofResult (congrArg (·.1) h)

namespace Cache

/-- What holds of the fingerprint of an entry that a publication leaves. It leaves none if the
document was made void, if the pass says nothing about it, or if it has no fingerprint. -/
theorem forall_stored?_publish_iff {c : Cache} {t : FileTree} {e : Epoch} {pass : Pass}
    {d : DocumentUri} {P : Fingerprint → Prop} :
    (∀ entry, (c.publish t e pass).stored? d = some entry → P entry.fingerprint) ↔
      c.voidedSince d e = true ∨ pass.speaksOf d = false ∨
        ∀ fingerprint, seenFingerprint? t pass d = some fingerprint → P fingerprint := by
  constructor
  · intro h
    by_contra hnot
    simp only [not_or, Bool.not_eq_true, Bool.not_eq_false, not_forall] at hnot
    obtain ⟨hvoided, hspeaks, fingerprint, hseen, hP⟩ := hnot
    exact hP (h ⟨pass.findingsOf d, fingerprint, c.publications + 1⟩
      (stored?_publish_eq_some_iff.mpr ⟨hvoided, hspeaks, hseen, rfl, rfl⟩))
  · rintro h entry hentry
    obtain ⟨hvoided, hspeaks, hseen, -⟩ := stored?_publish_eq_some_iff.mp hentry
    rcases h with h | h | h
    · exact absurd (hvoided.symm.trans h) Bool.false_ne_true
    · exact absurd (h.symm.trans hspeaks) Bool.false_ne_true
    · exact h _ hseen

/-! ### A file that is edited during its pass

For examples: a file at the root with an empty directory beside it, the way to it through that
directory, and an engine that finds nothing while the file is edited. -/

/-- A tree with a file and an empty directory at the root. -/
def treeHolding (content : Bytes) : FileTree :=
  ⟨.directory [([0x41], .file content), ([0x42], .directory [])]⟩

/-- The way to the file through the directory. -/
def detour : FilePath :=
  ⟨[FilePath.slash, 0x42, FilePath.slash, FilePath.dot, FilePath.dot, FilePath.slash, 0x41]⟩

/-- An engine that finds nothing, after which the files are as in a tree. -/
def leaving (t : FileTree) : Environment FileTree where
  tree := id
  tell _ s := s
  check _ _ _ := ({}, t)
  version _ s := (.done "", s)

/-- The one file is read under both of its spellings. -/
theorem read_treeHolding (content : Bytes) {p : FilePath} (hp : p = oneFile ∨ p = detour) :
    (treeHolding content).read p = .ok content := by
  rw [FileTree.read_eq_ok_iff]
  refine ⟨[[0x41]], ?_, rfl⟩
  rcases hp with rfl | rfl
  · simp [FileTree.locate, FileTree.walk, treeHolding, oneFile, List.splitOn_cons_eq_if_modifyHead,
      FilePath.isAbsolute, FilePath.isIdle, FilePath.slash, FilePath.dot, FileTree.maxPath,
      FileTree.maxName, FileNode.get?, FileNode.child?]
  · simp [FileTree.locate, FileTree.walk, treeHolding, detour, List.splitOn_cons_eq_if_modifyHead,
      FilePath.isAbsolute, FilePath.isIdle, FilePath.slash, FilePath.dot, FileTree.maxPath,
      FileTree.maxName, FileNode.get?, FileNode.child?]

/-- What an analysis of the file makes, however the way to it is spelled. -/
def passOver (p : FilePath) (content : Bytes) : Pass :=
  { files := [p], fingerprints := [(p, Fingerprint.ofBytes content)] }

/-- The pass has seen the file as it was, whatever the engine leaves behind. -/
theorem analyse_leaving (engine : Engine) (later : FileTree) (content : Bytes) {p : FilePath}
    (hp : p = oneFile ∨ p = detour) :
    (leaving later).analyse engine [p] (treeHolding content) =
      (some (passOver p content), later) := by
  have hlive : Pass.liveFingerprint (treeHolding content) p = .ok (Fingerprint.ofBytes content) :=
    Pass.liveFingerprint_eq_ok_iff.mpr ⟨content, read_treeHolding content hp, rfl⟩
  have hsnapshot :
      Pass.snapshot (treeHolding content) [p] = [(p, Fingerprint.ofBytes content)] := by
    simp [Pass.snapshot, hlive, Except.toOption]
  simp [Environment.analyse, leaving, hsnapshot, Pass.ofResult?, Pass.failureOf, passOver]

section Analysis

variable {σ : Type} {env : Environment σ} {engine : Engine} {files : List FilePath} {s s' : σ}
  {pass : Pass} {f : FilePath} {d : DocumentUri}

/-- A document is published with the fingerprint that was noted under its own path, however
that was spelled; if there is none, with that of the file as it is at the publication. -/
theorem seenFingerprint?_analyse_eq_some_iff
    (h : env.analyse engine files s = (some pass, s')) {t : FileTree}
    {fingerprint : Fingerprint} :
    seenFingerprint? t pass d = some fingerprint ↔
      ∃ p, d.toPath? = some p ∧
        (Pass.ReadAs (env.tree s) files p fingerprint ∨
          (∀ noted, ¬ Pass.ReadAs (env.tree s) files p noted) ∧
            Pass.liveFingerprint t p = .ok fingerprint) := by
  obtain ⟨rfl, hfingerprints⟩ := Environment.analyse_eq_some h
  rw [seenFingerprint?, Option.bind_eq_some_iff]
  refine exists_congr fun p => and_congr_right fun _ => ?_
  have hnoted (noted : Fingerprint) := @Pass.fingerprint?_eq_some_iff pass _ hfingerprints p noted
  cases hp : pass.fingerprint? p with
  | some noted =>
      have hread : Pass.ReadAs (env.tree s) pass.files p noted := (hnoted noted).mp hp
      constructor
      · rintro ⟨⟩
        exact .inl hread
      · rintro (hother | ⟨hnone, -⟩)
        · exact hp.symm.trans ((hnoted fingerprint).mpr hother)
        · exact absurd hread (hnone noted)
  | none =>
      have hnone (noted : Fingerprint) : ¬ Pass.ReadAs (env.tree s) pass.files p noted :=
        fun hread => by simp [(hnoted noted).mpr hread] at hp
      simp [hnone, Pass.toOption_liveFingerprint_eq_some_iff]

/-- A pass says nothing about one of its files exactly if it broke off without a finding about
it. -/
theorem speaksOf_analyse_eq_false_iff (h : env.analyse engine files s = (some pass, s'))
    (hf : f ∈ files) (hd : DocumentUri.ofPath? f = some d) :
    pass.speaksOf d = false ↔ pass.isComplete = false ∧ pass.findingsOf d = [] := by
  obtain ⟨rfl, -⟩ := Environment.analyse_eq_some h
  have hfile : (pass.files.any fun p => DocumentUri.ofPath? p = some d) = true :=
    List.any_eq_true.mpr ⟨f, hf, by simpa using hd⟩
  rw [Pass.speaksOf, hfile, Pass.findingsOf, List.filter_eq_nil_iff]
  simp [and_comm]

/-- **When an entry has the fingerprint from before the engine began.** A file of an analysis
is published, whatever the engine and the events did to the files in the meantime. An entry for
it has the fingerprint that the file had before the engine began exactly if: there is no entry,
because the document was made void or the pass broke off without a finding about it; or what
was noted under the path of the document was noted of a file that held the same and, if nothing
was noted, what can be read there at the publication is still the same. -/
theorem stored_snapshot_iff (h : env.analyse engine files s = (some pass, s')) (hf : f ∈ files)
    (hd : DocumentUri.ofPath? f = some d) (c : Cache) (t : FileTree) (e : Epoch) :
    (∀ entry, (c.publish t e pass).stored? d = some entry →
        Pass.liveFingerprint (env.tree s) f = .ok entry.fingerprint) ↔
      c.voidedSince d e = true ∨ (pass.isComplete = false ∧ pass.findingsOf d = []) ∨
        ∀ p, d.toPath? = some p →
          (∀ noted, Pass.ReadAs (env.tree s) files p noted →
            Pass.liveFingerprint (env.tree s) f = .ok noted) ∧
          ((∀ noted, ¬ Pass.ReadAs (env.tree s) files p noted) →
            ∀ live, Pass.liveFingerprint t p = .ok live →
              Pass.liveFingerprint (env.tree s) f = .ok live) := by
  rw [forall_stored?_publish_iff (P := fun fingerprint =>
    Pass.liveFingerprint (env.tree s) f = .ok fingerprint), speaksOf_analyse_eq_false_iff h hf hd]
  refine or_congr_right (or_congr_right ?_)
  simp only [seenFingerprint?_analyse_eq_some_iff h]
  constructor
  · intro hseen p hp
    exact ⟨fun noted hnoted => hseen noted ⟨p, hp, .inl hnoted⟩,
      fun hnone live hlive => hseen live ⟨p, hp, .inr ⟨hnone, hlive⟩⟩⟩
  · rintro hp fingerprint ⟨p, hpath, hnoted | ⟨hnone, hlive⟩⟩
    · exact (hp p hpath).1 fingerprint hnoted
    · exact (hp p hpath).2 hnone fingerprint hlive

/-- A file is edited during its analysis: its entry is about what it held before. -/
theorem stored_snapshot_of_edited :
    (leaving (treeHolding [])).analyse (.provided "none" 0) [oneFile] (treeHolding [0]) =
      (some (passOver oneFile [0]), treeHolding []) ∧
    oneFile ∈ [oneFile] ∧ DocumentUri.ofPath? oneFile = some oneDocument ∧
    ∀ entry, (({} : Cache).publish (treeHolding []) ⟨0⟩ (passOver oneFile [0])).stored?
        oneDocument = some entry →
      Pass.liveFingerprint (treeHolding [0]) oneFile = .ok entry.fingerprint := by
  have hanalyse := analyse_leaving (.provided "none" 0) (treeHolding []) [0] (.inl rfl)
  have hfile : oneFile ∈ [oneFile] := List.mem_singleton_self _
  have hdocument : DocumentUri.ofPath? oneFile = some oneDocument := by decide
  refine ⟨hanalyse, hfile, hdocument,
    (stored_snapshot_iff hanalyse hfile hdocument {} (treeHolding []) ⟨0⟩).mpr
      (.inr (.inr fun p hp => ?_))⟩
  obtain rfl : oneFile = p := Option.some.inj ((by decide : oneDocument.toPath? = _).symm.trans hp)
  refine ⟨?_, fun hnone => ?_⟩
  · rintro noted ⟨g, hg, -, hlive⟩
    obtain rfl := List.mem_singleton.mp hg
    exact hlive
  · refine absurd ⟨oneFile, hfile, by decide, ?_⟩ (hnone (Fingerprint.ofBytes [0]))
    exact Pass.liveFingerprint_eq_ok_iff.mpr ⟨[0], read_treeHolding [0] (.inl rfl), rfl⟩

/-- The same file is analysed by way of the directory: its entry is about what it holds after
it was edited, and so counts as up to date. -/
theorem detour_lookup_of_edited :
    (leaving (treeHolding [])).analyse (.provided "none" 0) [detour] (treeHolding [0]) =
      (some (passOver detour [0]), treeHolding []) ∧
    DocumentUri.ofPath? detour = some oneDocument ∧
    (({} : Cache).publish (treeHolding []) ⟨0⟩ (passOver detour [0])).lookup (treeHolding [])
      oneDocument = some ⟨[], Fingerprint.ofBytes [], 1⟩ ∧
    Pass.liveFingerprint (treeHolding [0]) detour ≠ .ok (Fingerprint.ofBytes []) := by
  have hlive (content : Bytes) {p : FilePath} (hp : p = oneFile ∨ p = detour) :
      Pass.liveFingerprint (treeHolding content) p = .ok (Fingerprint.ofBytes content) :=
    Pass.liveFingerprint_eq_ok_iff.mpr ⟨content, read_treeHolding content hp, rfl⟩
  have hpath : oneDocument.toPath? = some oneFile := by decide
  have hseen : seenFingerprint? (treeHolding []) (passOver detour [0]) oneDocument =
      some (Fingerprint.ofBytes []) := by
    have hother : detour.samePlace oneFile = false := by decide
    simp [seenFingerprint?, hpath, Pass.fingerprint?, passOver, hother, hlive [] (.inl rfl),
      Except.toOption]
  refine ⟨analyse_leaving _ _ _ (.inr rfl), by decide, lookup_eq_some.mpr ⟨?_, ?_⟩, ?_⟩
  · exact stored?_publish_eq_some_iff.mpr ⟨rfl, by decide, hseen, rfl, rfl⟩
  · simp [liveFingerprint?, hpath, hlive [] (.inl rfl), Except.toOption]
  · rw [hlive [0] (.inr rfl)]
    exact fun h => Fingerprint.ofBytes_nil_ne (Except.ok.inj h).symm

/-- **What guards a file against changes.** An entry for a file of an analysis has the
fingerprint from before the engine began, whatever happens to the files until the publication
and whatever the cache has been through, exactly if there is nothing to publish for it; or what
was noted under the path of its document was noted of a file that held the same and, if nothing
was noted, nothing can ever be read there. -/
theorem stored_snapshot_always_iff (h : env.analyse engine files s = (some pass, s'))
    (hf : f ∈ files) (hd : DocumentUri.ofPath? f = some d) :
    (∀ c t e entry, (publish c t e pass).stored? d = some entry →
        Pass.liveFingerprint (env.tree s) f = .ok entry.fingerprint) ↔
      (pass.isComplete = false ∧ pass.findingsOf d = []) ∨
        ∀ p, d.toPath? = some p →
          (∀ noted, Pass.ReadAs (env.tree s) files p noted →
            Pass.liveFingerprint (env.tree s) f = .ok noted) ∧
          ((∀ noted, ¬ Pass.ReadAs (env.tree s) files p noted) →
            ∀ t content, FileTree.read t p ≠ .ok content) := by
  have hpublish (c : Cache) (t : FileTree) (e : Epoch) :=
    @forall_stored?_publish_iff c t e pass d fun fingerprint =>
      Pass.liveFingerprint (env.tree s) f = .ok fingerprint
  simp only [hpublish, speaksOf_analyse_eq_false_iff h hf hd]
  constructor
  · intro hall
    refine or_iff_not_imp_left.mpr fun hsilent p hp => ?_
    have hfresh (t : FileTree) {fingerprint : Fingerprint}
        (hseen : seenFingerprint? t pass d = some fingerprint) :
        Pass.liveFingerprint (env.tree s) f = .ok fingerprint := by
      rcases hall {} t ⟨0⟩ with hvoided | hsilent' | hkept
      · exact absurd hvoided (by simp [voidedSince])
      · exact absurd hsilent' hsilent
      · exact hkept fingerprint hseen
    refine ⟨fun noted hread => ?_, fun hnone t old hold => ?_⟩
    · exact hfresh {} ((seenFingerprint?_analyse_eq_some_iff h).mpr ⟨p, hp, .inl hread⟩)
    · -- What is read at the publication can be either of two contents with different
      -- fingerprints, and the file held only one of them.
      have hlive (content : Bytes) :
          Pass.liveFingerprint (env.tree s) f = .ok (Fingerprint.ofBytes content) :=
        hfresh (t.refill content) ((seenFingerprint?_analyse_eq_some_iff h).mpr
          ⟨p, hp, .inr ⟨hnone,
            Pass.liveFingerprint_eq_ok_iff.mpr ⟨content, FileTree.read_refill hold content, rfl⟩⟩⟩)
      exact Fingerprint.ofBytes_nil_ne (Except.ok.inj ((hlive []).symm.trans (hlive [0])))
  · rintro (hsilent | hguarded) c t e
    · exact .inr (.inl hsilent)
    · refine .inr (.inr fun fingerprint hseen => ?_)
      obtain ⟨p, hp, hread | ⟨hnone, hlive⟩⟩ := (seenFingerprint?_analyse_eq_some_iff h).mp hseen
      · exact (hguarded p hp).1 fingerprint hread
      · obtain ⟨content, hcontent, -⟩ := Pass.liveFingerprint_eq_ok_iff.mp hlive
        exact absurd hcontent ((hguarded p hp).2 hnone t content)

end Analysis

end Cache

end PullDiagnostics
