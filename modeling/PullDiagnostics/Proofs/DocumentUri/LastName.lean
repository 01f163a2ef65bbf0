import PullDiagnostics.Proofs.DocumentUri.Correspondence

/-!
# The last name of a path, and its document

A path may go up on its way; its document then holds the names that are left when each two dots have
taken the name before them back. Whatever the way is, a name at its end is the last one of the
document, unless it looks like a drive letter. So the path of the document has the extension of the
path that it was made from.

## Main results

* `Url.getLast?_readPath`: the last step of a path stays when its URL is read.
* `DocumentUri.exists_ofPath?_of_getLast?`: the document of a path that ends in a name.
* `DocumentUri.exists_ofPath?_of_extension?`: documents keep extensions.
-/

namespace PullDiagnostics

open FilePath (IsName slash dot)

namespace Url

/-! ### The last step -/

/-- The last segment is read on its own, after the others. -/
theorem readSegments_concat (kind : SchemeKind) (s : PathState) (front : List (List Char))
    (segment : List Char) :
    readSegments kind s (front ++ [segment]) =
      (front.foldl (fun t step => t.segment kind step) s).last kind segment := by
  induction front generalizing s with
  | nil => rfl
  | cons step rest ih =>
      rw [List.cons_append, List.foldl_cons, ← ih]
      cases rest <;> rfl

/-- A name at the end of a path goes on top of what is before it. -/
theorem exists_ended_last {name : Bytes} (h : IsName name)
    (hdrive : isDriveLetter (encodeName name) = false) (s : PathState) :
    ∃ below, (s.last .file (encodeName name)).ended = encodeName name :: below := by
  refine ⟨s.ended, ?_⟩
  rw [PathState.last, PathState.read_of_plain s (plain_encodeName h), PathState.push, hdrive,
    Bool.and_false, if_neg Bool.false_ne_true]

/-- Dropping empty segments in front keeps the last one. -/
theorem getLast?_dropEmpty_concat (front : List (List Char)) {segment : List Char}
    (h : segment ≠ []) : (dropEmpty (front ++ [segment])).getLast? = some segment := by
  induction front with
  | nil => rw [List.nil_append, dropEmpty_of_ne_nil h, List.getLast?_singleton]
  | cons first rest ih =>
      cases first with
      | nil => rwa [List.cons_append, dropEmpty_cons_nil]
      | cons c more =>
          rw [List.cons_append, dropEmpty_of_ne_nil (List.cons_ne_nil c more), ← List.cons_append,
            List.getLast?_concat]

/-- **The last step** of a path stays, if it is a name that is no drive letter. -/
theorem getLast?_readPath {first : List Char} {others : List (List Char)}
    (hsteps : ∀ segment ∈ first :: others, IsStep segment) {name : Bytes} (h : IsName name)
    (hdrive : isDriveLetter (encodeName name) = false)
    (hlast : (first :: others).getLast? = some (encodeName name)) :
    (readPath .file ('/' :: (first ++ others.flatMap ('/' :: ·)))).1.getLast? =
      some (encodeName name) := by
  obtain ⟨front, hfront⟩ := List.getLast?_eq_some_iff.mp hlast
  have hsplit : splitAtAny (isSlash .file) ('/' :: (first ++ others.flatMap ('/' :: ·))) =
      ([] :: front) ++ [encodeName name] := by
    rw [List.cons_append, ← hfront]
    refine splitAtAny_join (isSlash_slash .file) [] (first :: others) fun part hpart => ?_
    rcases List.mem_cons.mp hpart with rfl | hpart
    · simp
    · exact (hsteps part hpart).whole
  rw [readPath, hsplit, readSegments_concat]
  obtain ⟨below, hended⟩ := exists_ended_last h hdrive
    (([] :: front).foldl (fun t step => t.segment .file step) {})
  simp only [if_true]
  rw [hended, List.reverse_cons, getLast?_dropEmpty_concat _ (encodeName_ne_nil h)]

/-- A name with a dot is no drive letter. -/
theorem isDriveLetter_encodeName {name : Bytes} (h : dot ∈ name) :
    isDriveLetter (encodeName name) = false := by
  have hmem : '.' ∈ encodeName name :=
    List.mem_flatMap.mpr ⟨dot, h, by decide⟩
  unfold isDriveLetter
  split
  next letter mark heq =>
    rw [heq] at hmem
    rcases List.mem_cons.mp hmem with rfl | hmem
    · rfl
    · rw [← List.mem_singleton.mp hmem]
      simp
  next => rfl

end Url

namespace FilePath

/-- The name that an extension belongs to. -/
theorem exists_getLast?_of_extension? {p : FilePath} (h : p.extension?.isSome = true) :
    ∃ name, p.components.getLast? = some (.name name) ∧ dot ∈ name := by
  obtain ⟨extension, hextension⟩ := Option.isSome_iff_exists.mp h
  obtain ⟨name, hname, hcut⟩ := Option.bind_eq_some_iff.mp hextension
  unfold fileName? at hname
  split at hname <;> cases hname
  next hlast => exact ⟨name, hlast, dot_mem_of_cutName (by rw [hcut]; rfl)⟩

/-- The extension depends on the last component only. -/
theorem extension?_of_getLast? {p q : FilePath}
    (h : p.components.getLast? = q.components.getLast?) : p.extension? = q.extension? := by
  rw [extension?, extension?, fileName?, fileName?, h]

end FilePath

namespace DocumentUri

/-! ### Documents of paths that end in a name -/

/-- **The document of a path that ends in a name** holds names, of which this is the last one. -/
theorem exists_ofPath?_of_getLast? {p : FilePath} (hp : p.isAbsolute = true) {name : Bytes}
    (hlast : p.components.getLast? = some (.name name))
    (hdrive : Url.isDriveLetter (Url.encodeName name) = false) :
    ∃ names : List Bytes, (∀ other ∈ names, IsName other) ∧ names.getLast? = some name ∧
      ofPath? p = some ⟨Url.localFile (names.map Url.encodeName)⟩ := by
  have htail : p.components.tail.getLast? = some (.name name) := by
    rw [FilePath.components_of_isAbsolute hp] at hlast ⊢
    rw [List.getLast?_cons] at hlast
    rw [List.tail_cons]
    cases hnames : (FilePath.namesOf (p.bytes.splitOn slash)).getLast? with
    | none => simp [hnames] at hlast
    | some c => simpa [hnames] using hlast
  have hname : IsName name := by
    obtain hparent | ⟨other, hother, heq⟩ :=
      FilePath.eq_parent_or_isName hp (List.mem_of_getLast? htail)
    · cases hparent
    · exact Component.name.inj heq ▸ hother
  have hsteps := Url.isStep_of_isAbsolute hp
  have hend : (p.components.tail.map fun c =>
      Percent.encode Percent.pathSegment (Url.componentText c)).getLast? =
        some (Url.encodeName name) := by
    rw [List.getLast?_map, htail]
    rfl
  cases hparts : p.components.tail.map fun c =>
      Percent.encode Percent.pathSegment (Url.componentText c) with
  | nil =>
      rw [hparts] at hend
      cases hend
  | cons first others =>
      rw [hparts] at hsteps hend
      have hurl : Url.ofPath? p = some (Url.localFile (first :: others)) := by
        simp only [Url.ofPath?, hp, if_true, hparts]
        rfl
      have hread := Url.parse_write_localFile fun segment hsegment =>
        (hsteps segment hsegment).clear
      have hlocal := (Url.localPath_readPath hsteps (Prod.eta _).symm).1
      have hkept := Url.getLast?_readPath hsteps hname hdrive hend
      have hdocument : ofPath? p = some ⟨Url.localFile
          (Url.readPath .file ('/' :: (first ++ others.flatMap ('/' :: ·)))).1⟩ := by
        rw [ofPath?, urlOfPath?, hurl, Option.bind_some, hread]
        rfl
      generalize (Url.readPath .file ('/' :: (first ++ others.flatMap ('/' :: ·)))).1 = parts
        at hlocal hkept hdocument
      cases hlocal with
      | @names names hnames hne =>
          refine ⟨names, hnames, ?_, hdocument⟩
          rw [List.getLast?_map] at hkept
          obtain ⟨other, hother, heq⟩ := Option.map_eq_some_iff.mp hkept
          rw [hother, ← Url.decode_encodeName other, heq, Url.decode_encodeName]
      | @closed names hnames =>
          rw [List.getLast?_concat] at hkept
          exact absurd (Option.some.inj hkept).symm (Url.encodeName_ne_nil hname)

/-- The pieces of the path of a document that holds names are these names, and an idle one at most
behind them. -/
theorem exists_splitOn_closeDrive {names : List Bytes} (h : ∀ name ∈ names, IsName name) :
    ∃ back, (∀ piece ∈ back, FilePath.isIdle piece = true) ∧
      (Url.closeDrive (names.flatMap (slash :: ·))).splitOn slash = [] :: (names ++ back) := by
  have hpieces := FilePath.splitOn_flatMap fun name hname => (h name hname).slash_not_mem
  rcases Url.closeDrive_eq (names.flatMap (slash :: ·)) with hclose | hclose
  · exact ⟨[], by simp, by rw [hclose, hpieces, List.append_nil]⟩
  · refine ⟨[[]], by simp [FilePath.isIdle], ?_⟩
    rw [hclose, List.splitOn_append_cons_self, hpieces]
    rfl

/-- **Documents keep extensions.** The document of a path with an extension leads to a path of names
with the same extension. -/
theorem exists_ofPath?_of_extension? {p : FilePath} (hp : p.isAbsolute = true)
    (h : p.extension?.isSome = true) :
    ∃ d q, ofPath? p = some d ∧ d.toPath? = some q ∧ q.LeadsDown ∧ q.extension? = p.extension? := by
  obtain ⟨name, hlast, hdot⟩ := FilePath.exists_getLast?_of_extension? h
  obtain ⟨names, hnames, hend, hdocument⟩ :=
    exists_ofPath?_of_getLast? hp hlast (Url.isDriveLetter_encodeName hdot)
  have hne : names ≠ [] := by
    rintro rfl
    cases hend
  have habsolute := FilePath.isAbsolute_flatMap hne
  have hcomponents : (FilePath.mk (Url.closeDrive (names.flatMap (slash :: ·)))).components =
      .root :: names.map .name := by
    rw [Url.components_closeDrive habsolute, FilePath.components_flatMap hnames hne]
  refine ⟨_, _, hdocument, toPath?_of_names hne, ⟨Url.isAbsolute_closeDrive habsolute, ?_⟩, ?_⟩
  · simp [hcomponents]
  · refine FilePath.extension?_of_getLast? ?_
    rw [hcomponents, hlast, List.getLast?_cons, List.getLast?_map, hend]
    rfl

end DocumentUri

end PullDiagnostics
