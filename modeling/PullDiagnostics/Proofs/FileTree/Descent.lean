import PullDiagnostics.Proofs.FileTree.Names

/-!
# Paths below a path

Names that are joined to an absolute path one after the other make a path that says what the first
one says and then these names, however the first one is spelled. Where it says only names, what is
left of a path below it are the names that follow, and idle pieces at the seam and at the end leave
no trace.

## Main results

* `components_descend`: what a path below a path says.
* `stripPrefix?_of_splitOn`: what is left of a path that starts with the components of another one.
* `stripPrefix?_descend`: what is left of a path below the path that it was made from.
-/

namespace PullDiagnostics.FilePath

/-- The path that is reached from another one by some names. -/
def descend (start : FilePath) (names : List Bytes) : FilePath :=
  names.foldl (fun p name => p.join ⟨name⟩) start

/-- The last name of a descent is joined last. -/
theorem descend_concat (start : FilePath) (names : List Bytes) (name : Bytes) :
    start.descend (names ++ [name]) = (start.descend names).join ⟨name⟩ := by
  rw [descend, List.foldl_append]
  rfl

/-! ### What is said -/

/-- A name does not begin with a slash, so joining it does not start at the root. -/
theorem IsName.not_isAbsolute {name : Bytes} (h : IsName name) :
    (FilePath.mk name).isAbsolute = false := by
  cases name with
  | nil => rfl
  | cons b rest =>
      have hb : b ≠ slash := fun hb => h.slash_not_mem (hb ▸ List.mem_cons_self ..)
      simpa [isAbsolute] using hb

theorem IsName.ne_nil {name : Bytes} (h : IsName name) : name ≠ [] := by
  rintro rfl
  exact absurd h.not_idle (by decide)

/-- A name that is joined to a path is its last piece; an empty piece before it is lost. -/
theorem splitOn_join {p : FilePath} (hp : p.isAbsolute = true) {name : Bytes} (h : IsName name) :
    ∃ kept, (p.join ⟨name⟩).bytes.splitOn slash = kept ++ [name] ∧
      (p.bytes.splitOn slash = kept ∨ p.bytes.splitOn slash = kept ++ [[]]) := by
  have hempty : p.bytes.isEmpty = false := by
    cases hbytes : p.bytes with
    | nil => simp [isAbsolute, hbytes] at hp
    | cons b rest => rfl
  have hname : name.splitOn slash = [name] := List.splitOn_eq_singleton h.slash_not_mem
  simp only [join, h.not_isAbsolute, hempty, Bool.or_self, Bool.false_eq_true, if_false]
  split
  next hlast =>
    obtain ⟨front, hfront⟩ := List.getLast?_eq_some_iff.mp hlast
    refine ⟨front.splitOn slash, ?_, .inr ?_⟩
    · rw [hfront, List.append_assoc, List.singleton_append, List.splitOn_append_cons_self, hname]
    · rw [hfront, List.splitOn_append_cons_self, List.splitOn_nil]
  next => exact ⟨p.bytes.splitOn slash, by rw [List.splitOn_append_cons_self, hname], .inl rfl⟩

/-- Joining a name to an absolute path gives an absolute path. -/
theorem isAbsolute_join {p : FilePath} (hp : p.isAbsolute = true) {name : Bytes} (h : IsName name) :
    (p.join ⟨name⟩).isAbsolute = true := by
  unfold join
  split
  next hrelative =>
    rw [h.not_isAbsolute, Bool.false_or, List.isEmpty_iff] at hrelative
    simp [isAbsolute, hrelative] at hp
  next =>
    split
    · exact isAbsolute_append hp name
    · exact isAbsolute_append hp (slash :: name)

/-- A descent from an absolute path stays absolute. -/
theorem isAbsolute_descend {start : FilePath} (hstart : start.isAbsolute = true)
    {names : List Bytes} (h : ∀ name ∈ names, IsName name) :
    (start.descend names).isAbsolute = true := by
  induction names using List.reverseRecOn with
  | nil => exact hstart
  | append_singleton before last ih =>
      rw [descend_concat]
      exact isAbsolute_join (ih fun name hname => h name (List.mem_append_left _ hname))
        (h last (by simp))

/-- Before its first slash an absolute path has an empty piece, and there is one behind it. -/
theorem exists_splitOn_of_isAbsolute {p : FilePath} (hp : p.isAbsolute = true) :
    ∃ first rest, p.bytes.splitOn slash = [] :: first :: rest := by
  obtain ⟨bytes⟩ := p
  cases bytes with
  | nil => cases hp
  | cons b more =>
      obtain rfl : b = slash := by simpa [isAbsolute] using hp
      obtain ⟨first, rest, hrest⟩ := List.exists_cons_of_ne_nil (List.splitOn_ne_nil slash more)
      exact ⟨first, rest, by simp [List.splitOn_cons_eq_if_modifyHead, hrest]⟩

/-- The pieces of a path below a path: an empty one before the first slash, those of the path but
for an idle one at its end, and the names. -/
theorem exists_splitOn_descend {start : FilePath} (hstart : start.isAbsolute = true)
    {names : List Bytes} (h : ∀ name ∈ names, IsName name) (hne : names ≠ []) :
    ∃ front, (start.descend names).bytes.splitOn slash = [] :: (front ++ names) ∧
      namesOf front = namesOf (start.bytes.splitOn slash) := by
  have hidle (parts : List Bytes) : namesOf (parts ++ [[]]) = namesOf parts := by
    rw [namesOf_append, show namesOf [[]] = [] from rfl, List.append_nil]
  induction names using List.reverseRecOn with
  | nil => exact absurd rfl hne
  | append_singleton before last ih =>
      have hbefore : ∀ name ∈ before, IsName name := fun name hname =>
        h name (List.mem_append_left _ hname)
      obtain ⟨kept, hkept, hold⟩ :=
        splitOn_join (isAbsolute_descend hstart hbefore) (h last (by simp))
      rw [descend_concat, hkept]
      by_cases hnil : before = []
      · subst hnil
        obtain ⟨first, rest, hpieces⟩ := exists_splitOn_of_isAbsolute hstart
        have hstarts : (start.descend []).bytes.splitOn slash = [] :: first :: rest := hpieces
        rw [hstarts] at hold
        rcases hold with rfl | hold
        · exact ⟨first :: rest, rfl, by rw [hpieces]; rfl⟩
        · obtain ⟨front, rfl⟩ : ∃ front, kept = [] :: front := by
            cases kept with
            | nil => cases hold
            | cons head front => exact ⟨front, by rw [(List.cons.inj hold).1]⟩
          refine ⟨front, rfl, ?_⟩
          rw [hpieces, hold, hidle]
          rfl
      · obtain ⟨front, hpieces, hfront⟩ := ih hbefore hnil
        rw [hpieces] at hold
        refine ⟨front, ?_, hfront⟩
        rcases hold with rfl | hold
        · simp
        · -- The last piece is a name, so it is not empty.
          obtain ⟨others, name, rfl⟩ := List.eq_nil_or_concat before |>.resolve_left hnil
          have hlast := congrArg List.getLast? hold
          simp only [List.concat_eq_append, ← List.append_assoc, ← List.cons_append,
            List.getLast?_concat, Option.some.injEq] at hlast
          exact absurd hlast (hbefore name (by simp)).ne_nil

/-- **Paths below a path** say the names after what the path says. -/
theorem components_descend {start : FilePath} (hstart : start.isAbsolute = true)
    {names : List Bytes} (h : ∀ name ∈ names, IsName name) :
    (start.descend names).components = start.components ++ names.map .name := by
  by_cases hne : names = []
  · subst hne
    exact (List.append_nil _).symm
  · obtain ⟨front, hpieces, hfront⟩ := exists_splitOn_descend hstart h hne
    rw [components_of_isAbsolute (isAbsolute_descend hstart h), hpieces,
      components_of_isAbsolute hstart, ← hfront, ← namesOf_of_isName h, List.cons_append,
      ← namesOf_append]
    rfl

/-! ### What is left of a path -/

/-- When as many pieces are dropped as say something, idle ones may be left. -/
theorem exists_dropNames_append (front rest : List Bytes) :
    ∃ idle, (∀ piece ∈ idle, isIdle piece = true) ∧
      dropNames (namesOf front).length (front ++ rest) = idle ++ rest := by
  induction front with
  | nil => exact ⟨[], by simp, by simp [namesOf, dropNames]⟩
  | cons piece more ih =>
      obtain ⟨idle, hidle, hdrop⟩ := ih
      by_cases hpiece : isIdle piece = true
      · have hnames : namesOf (piece :: more) = namesOf more := by simp [namesOf, hpiece]
        rw [hnames]
        cases hlength : (namesOf more).length with
        | zero =>
            rw [hlength, dropNames] at hdrop
            exact ⟨piece :: idle, by simpa using ⟨hpiece, hidle⟩,
              by rw [dropNames, List.cons_append, hdrop, List.cons_append]⟩
        | succ n =>
            rw [hlength] at hdrop
            exact ⟨idle, hidle, by rw [List.cons_append, dropNames, if_pos hpiece, hdrop]⟩
      · have hnames : (namesOf (piece :: more)).length = (namesOf more).length + 1 := by
          simp [namesOf, hpiece]
        rw [hnames, List.cons_append, dropNames, if_neg hpiece]
        exact ⟨idle, hidle, hdrop⟩

/-- The pieces to skip end at the first name. -/
theorem dropWhile_isIdle_append {idle names : List Bytes}
    (hidle : ∀ piece ∈ idle, isIdle piece = true) (h : ∀ name ∈ names, IsName name)
    (hne : names ≠ []) (rest : List Bytes) :
    (idle ++ (names ++ rest)).dropWhile isIdle = names ++ rest := by
  obtain ⟨first, others, rfl⟩ := List.exists_cons_of_ne_nil hne
  have hfirst : ¬ isIdle first = true := by simp [(h first (List.mem_cons_self ..)).not_idle]
  rw [List.dropWhile_append_of_pos hidle, List.cons_append, List.dropWhile_cons_of_neg hfirst]

/-- Names stay when idle pieces before and after them are taken away. -/
theorem trimIdle_append {idle names back : List Bytes} (hidle : ∀ piece ∈ idle, isIdle piece = true)
    (h : ∀ name ∈ names, IsName name) (hne : names ≠ [])
    (hback : ∀ piece ∈ back, isIdle piece = true) :
    trimIdle (idle ++ (names ++ back)) = names := by
  have hreverse : (back.reverse ++ (names.reverse ++ [])).dropWhile isIdle = names.reverse ++ [] :=
    dropWhile_isIdle_append (by simpa using hback) (by simpa using h) (by simpa using hne) []
  rw [List.append_nil, ← List.reverse_append] at hreverse
  rw [trimIdle, dropWhile_isIdle_append hidle h hne, hreverse, List.reverse_reverse]

/-- **What is left of a path** that says what another one does and then some names. -/
theorem stripPrefix?_of_splitOn {p base : FilePath} (hp : p.isAbsolute = true)
    (hbase : base.isAbsolute = true) {front names back : List Bytes}
    (hpieces : p.bytes.splitOn slash = [] :: (front ++ (names ++ back)))
    (hfront : namesOf front = namesOf (base.bytes.splitOn slash)) (h : ∀ name ∈ names, IsName name)
    (hne : names ≠ []) (hback : ∀ piece ∈ back, isIdle piece = true) :
    p.stripPrefix? base = some ⟨List.intercalate [slash] names⟩ := by
  have hshared : base.components = .root :: namesOf front := by
    rw [components_of_isAbsolute hbase, hfront]
  have hprefix : base.components.isPrefixOf p.components = true := by
    have hsame : namesOf (p.bytes.splitOn slash) = namesOf front ++ namesOf (names ++ back) := by
      rw [hpieces, ← namesOf_append]
      rfl
    rw [List.isPrefixOf_iff_prefix, hshared, components_of_isAbsolute hp, hsame]
    exact ⟨namesOf (names ++ back), rfl⟩
  obtain ⟨idle, hidle, hdrop⟩ := exists_dropNames_append front (names ++ back)
  simp only [stripPrefix?, hprefix, if_true]
  rw [hshared]
  simp only [hpieces, List.tail_cons, hdrop, trimIdle_append hidle h hne hback]

/-- What remains of a descent below its start is the names, with slashes between them. -/
theorem stripPrefix?_descend {start : FilePath} (hstart : start.isAbsolute = true)
    {names : List Bytes} (h : ∀ name ∈ names, IsName name) (hne : names ≠ []) :
    (start.descend names).stripPrefix? start = some ⟨List.intercalate [slash] names⟩ := by
  obtain ⟨front, hpieces, hfront⟩ := exists_splitOn_descend hstart h hne
  exact stripPrefix?_of_splitOn (isAbsolute_descend hstart h) hstart
    (by rw [hpieces, List.append_nil]) hfront h hne (by simp)

end PullDiagnostics.FilePath
