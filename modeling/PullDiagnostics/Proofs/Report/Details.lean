import PullDiagnostics.Proofs.Report.Reading

/-!
# What a draft keeps

Whatever lines stand below a header, a draft keeps some of the details among them, in their order,
and it may let go of the last one when a caret comes. It has the column of a caret exactly if
nothing but an echo, or details only, stand above that caret.

## Main results

* `Keeps.taken`: what a draft keeps are details among the lines that it was given.
* `below_taken_iff`: which caret gives a draft its column.
-/

namespace PullDiagnostics.Report.Draft

variable {d more : Draft} {line : List Char} {ls : List (List Char)}

/-! ### Details -/

/-- A line that is held back comes behind the details taken up before. -/
theorem details_prefix_settled (d : Draft) : d.details <+: d.settled := by
  unfold settled
  split
  next => split <;> simp
  next => exact List.prefix_rfl

/-- A line that is taken up is a detail behind those that are kept, or none is added. -/
theorem settled_push (h : d.push line = some more) :
    more.settled <+: d.settled ∨
      IsDetail line ∧ more.settled = d.settled ++ [Text.trim line] := by
  cases takesUp_of_push h with
  | blank _ => exact .inl List.prefix_rfl
  | detail hbelow hline => exact .inr ⟨hline, by simp [settled, hbelow]⟩
  | caret _ _ => exact .inl (details_prefix_settled d)
  | held _ hblank _ =>
      by_cases hindented : isIndented line = true
      · exact .inr ⟨⟨hindented, hblank⟩, by simp [settled, hindented]⟩
      · have hkept : settled { d with details := d.settled, below := .noCaret (some line) } =
            d.settled := if_neg hindented
        exact .inl (hkept.symm ▸ List.prefix_rfl)

/-- Whether some lines are details among others, in the same order. -/
structure Among (kept ls : List (List Char)) : Prop where
  sublist : kept.Sublist ls
  isDetail : ∀ line ∈ kept, IsDetail line

/-- Whether what a draft keeps are details among some lines, in their order. -/
def Keeps (d : Draft) (ls : List (List Char)) : Prop :=
  ∃ kept, Among kept ls ∧ d.settled = kept.map Text.trim

/-- What is kept among some lines is kept among more. -/
theorem Keeps.append {a : List (List Char)} (h : d.Keeps a) (b : List (List Char)) :
    d.Keeps (a ++ b) := by
  obtain ⟨kept, hkept, hsettled⟩ := h
  exact ⟨kept, ⟨hkept.sublist.trans (List.sublist_append_left a b), hkept.isDetail⟩, hsettled⟩

/-- A draft that takes up a line keeps no more than that line besides. -/
theorem Keeps.push (h : d.Keeps ls) (hmore : d.push line = some more) :
    more.Keeps (ls ++ [line]) := by
  obtain ⟨kept, hkept, hsettled⟩ := h
  rcases settled_push hmore with hprefix | ⟨hline, heq⟩
  · -- What is kept then is an initial stretch of what was kept.
    rw [hsettled, List.prefix_map_iff] at hprefix
    obtain ⟨less, hless, heq⟩ := hprefix
    have hsub : less.Sublist (ls ++ [line]) :=
      hless.sublist.trans (hkept.sublist.trans (List.sublist_append_left ls [line]))
    exact ⟨less, ⟨hsub, fun other hother => hkept.isDetail other (hless.subset hother)⟩, heq⟩
  · refine ⟨kept ++ [line], ⟨hkept.sublist.append_right [line], ?_⟩, ?_⟩
    · intro other hother
      rcases List.mem_append.mp hother with hother | hother
      · exact hkept.isDetail other hother
      · exact List.mem_singleton.mp hother ▸ hline
    · rw [heq, hsettled, List.map_append, List.map_singleton]

/-- What a draft keeps are details among the lines that it was given. -/
theorem Keeps.taken {seen : List (List Char)} (h : d.Keeps seen) (ls : List (List Char)) :
    (d.taken ls).Keeps (seen ++ ls) := by
  induction ls generalizing d seen with
  | nil => simpa [Draft.taken] using h
  | cons line rest ih =>
      unfold Draft.taken
      split
      next more hmore => simpa using ih (h.push hmore)
      next => exact h.append (line :: rest)

theorem keeps_new (header : Header) : Keeps { header } [] :=
  ⟨[], ⟨List.Sublist.refl [], by simp⟩, rfl⟩

/-! ### The caret -/

/-- The lines that are not blank. -/
def shown (ls : List (List Char)) : List (List Char) :=
  ls.filter (!Text.isBlankText ·)

/-- Whether a caret below some lines gives the finding above them its column: none of them is a
caret, and those that are not blank are indented, or there is one only. -/
structure AllowsCaret (above : List (List Char)) : Prop where
  no_caret : ∀ line ∈ above, caretColumn? line = none
  indented : (∀ line ∈ shown above, isIndented line = true) ∨ (shown above).length = 1

theorem shown_cons_of_blank (h : Text.isBlankText line = true) (ls : List (List Char)) :
    shown (line :: ls) = shown ls := by
  simp [shown, h]

theorem shown_cons_of_not_blank (h : Text.isBlankText line = false) (ls : List (List Char)) :
    shown (line :: ls) = line :: shown ls := by
  simp [shown, h]

/-- A draft takes up the lines that are not blank, and passes over the others. -/
theorem taken_append_of_shown (d : Draft) (ls rest : List (List Char)) :
    d.taken (ls ++ rest) = d.taken (shown ls ++ rest) := by
  induction ls generalizing d with
  | nil => rfl
  | cons line others ih =>
      cases hblank : Text.isBlankText line with
      | true =>
          rw [shown_cons_of_blank hblank, List.cons_append, taken_cons (push_of_blank d hblank), ih]
      | false =>
          rw [shown_cons_of_not_blank hblank, List.cons_append, List.cons_append, taken, taken]
          cases d.push line with
          | some more => exact ih more
          | none => rfl

/-- Once there is a column, it stays. -/
theorem below_taken_of_caret {column : ℕ} (hd : d.below = .caret column)
    (ls : List (List Char)) : (d.taken ls).below = .caret column := by
  induction ls generalizing d with
  | nil => exact hd
  | cons line rest ih =>
      unfold taken
      split
      next more hmore =>
        refine ih ?_
        cases takesUp_of_push hmore with
        | blank _ | detail _ _ => exact hd
        | caret hbelow _ | held hbelow _ _ => exact absurd (hd.symm.trans hbelow) (by simp)
      next => exact hd

/-- Lines that allow a caret are all taken up, and the draft still waits for it. -/
theorem taken_append_of_allowsCaret {above : List (List Char)} (habove : AllowsCaret above)
    (header : Header) (rest : List (List Char)) :
    ∃ (more : Draft) (held : Option (List Char)), more.below = .noCaret held ∧
      taken { header } (above ++ rest) = more.taken rest := by
  have hopen := isOpen_new header
  have hshown : ∀ line ∈ shown above, Text.isBlankText line = false ∧ caretColumn? line = none := by
    intro line hline
    obtain ⟨hmem, hblank⟩ := List.mem_filter.mp hline
    exact ⟨by simpa using hblank, habove.no_caret line hmem⟩
  rw [taken_append_of_shown]
  rcases habove.indented with hall | hone
  · obtain ⟨more, ⟨⟨held, hheld, -⟩, -⟩, htaken⟩ := taken_details hopen (fun line hline =>
      ⟨⟨hall line hline, (hshown line hline).1⟩, (hshown line hline).2⟩) rest
    exact ⟨more, held, hheld, htaken⟩
  · obtain ⟨echo, hecho⟩ := List.length_eq_one_iff.mp hone
    rw [hecho] at hshown ⊢
    obtain ⟨hblank, hcaret⟩ := hshown echo (List.mem_singleton_self echo)
    exact ⟨_, some echo, rfl, taken_cons (push_of_isOpen hopen hblank hcaret (.inr rfl)) rest⟩

/-- Below an echo that is not indented, a caret gives the column only if nothing but blank lines
stands between. -/
theorem exists_caret_below_echo {echo : List Char} (hd : d.below = .noCaret (some echo))
    (hecho : isIndented echo = false) {column : ℕ} (h : (d.taken ls).below = .caret column) :
    ∃ above line rest, ls = above ++ line :: rest ∧ caretColumn? line = some column ∧
      ∀ line ∈ above, Text.isBlankText line = true := by
  induction ls with
  | nil =>
      rw [taken, hd] at h
      cases h
  | cons line rest ih =>
      by_cases hblank : Text.isBlankText line = true
      · rw [taken_cons (push_of_blank d hblank)] at h
        obtain ⟨above, caret, below, rfl, hcaret, habove⟩ := ih h
        exact ⟨line :: above, caret, below, rfl, hcaret, List.forall_mem_cons.mpr ⟨hblank, habove⟩⟩
      · cases hcaret : caretColumn? line with
        | some c =>
            rw [taken_cons (push_of_caretColumn? hd hcaret), below_taken_of_caret rfl] at h
            cases h
            exact ⟨[], line, rest, rfl, hcaret, by simp⟩
        | none =>
            have hpush : d.push line = none := by
              simp [push, hblank, hd, hcaret, hecho]
            rw [taken, hpush, hd] at h
            cases h

/-- A draft that may still meet its caret has a column only from a caret with details above it; if
it has none yet, one echo may stand there instead. -/
theorem exists_caret_of_isOpen {details : List (List Char)} (hd : d.IsOpen details) {column : ℕ}
    (h : (d.taken ls).below = .caret column) :
    ∃ above line rest, ls = above ++ line :: rest ∧ caretColumn? line = some column ∧
      (∀ line ∈ above, caretColumn? line = none) ∧
      ((∀ line ∈ shown above, isIndented line = true) ∨
        details = [] ∧ (shown above).length = 1) := by
  induction ls generalizing d details with
  | nil =>
      obtain ⟨⟨held, hbelow, -⟩, -⟩ := hd
      rw [taken, hbelow] at h
      cases h
  | cons line rest ih =>
      obtain ⟨⟨held, hbelow, -⟩, -⟩ := id hd
      by_cases hblank : Text.isBlankText line = true
      · rw [taken_cons (push_of_blank d hblank)] at h
        obtain ⟨above, caret, below, rfl, hcaret, hcarets, habove⟩ := ih hd h
        refine ⟨line :: above, caret, below, rfl, hcaret,
          List.forall_mem_cons.mpr ⟨caretColumn?_of_isBlankText hblank, hcarets⟩, ?_⟩
        rwa [shown_cons_of_blank hblank]
      · rw [Bool.not_eq_true] at hblank
        cases hcaret : caretColumn? line with
        | some c =>
            rw [taken_cons (push_of_caretColumn? hbelow hcaret), below_taken_of_caret rfl] at h
            cases h
            exact ⟨[], line, rest, rfl, hcaret, by simp, .inl (by simp [shown])⟩
        | none =>
            -- An indented line is a detail from here on; another one can only be the echo.
            by_cases hindented : isIndented line = true
            · obtain ⟨more, hmore, hopen⟩ := push_detail hd ⟨hindented, hblank⟩ hcaret
              rw [taken_cons hmore] at h
              obtain ⟨above, caret, below, rfl, hcolumn, hcarets, habove⟩ := ih hopen h
              refine ⟨line :: above, caret, below, rfl, hcolumn,
                List.forall_mem_cons.mpr ⟨hcaret, hcarets⟩, .inl ?_⟩
              rw [shown_cons_of_not_blank hblank]
              rcases habove with hall | ⟨hnil, -⟩
              · exact List.forall_mem_cons.mpr ⟨hindented, hall⟩
              · simp at hnil
            · by_cases hnil : details = []
              · have hpush := push_of_isOpen hd hblank hcaret (.inr hnil)
                rw [taken_cons hpush] at h
                obtain ⟨above, caret, below, rfl, hcolumn, habove⟩ :=
                  exists_caret_below_echo rfl (by simpa using hindented) h
                refine ⟨line :: above, caret, below, rfl, hcolumn,
                  List.forall_mem_cons.mpr ⟨hcaret, fun other hother =>
                    caretColumn?_of_isBlankText (habove other hother)⟩, .inr ⟨hnil, ?_⟩⟩
                have hshown : shown above = [] := by simpa [shown] using habove
                rw [shown_cons_of_not_blank hblank, hshown, List.length_singleton]
              · have hpush : d.push line = none := by
                  simp [push, hblank, hbelow, hcaret, hindented, hd.settled_eq, hnil]
                rw [taken, hpush, hbelow] at h
                cases h

/-- **The caret of a finding.** It is the first caret below the header, if what stands above it
allows one there. -/
theorem below_taken_iff (header : Header) {column : ℕ} :
    (taken { header } ls).below = .caret column ↔
      ∃ above line rest, ls = above ++ line :: rest ∧ caretColumn? line = some column ∧
        AllowsCaret above := by
  constructor
  · intro h
    obtain ⟨above, line, rest, hls, hcaret, hcarets, habove⟩ :=
      exists_caret_of_isOpen (isOpen_new header) h
    exact ⟨above, line, rest, hls, hcaret, hcarets, habove.imp id And.right⟩
  · rintro ⟨above, line, rest, rfl, hcaret, habove⟩
    obtain ⟨more, held, hheld, htaken⟩ := taken_append_of_allowsCaret habove header (line :: rest)
    rw [htaken, taken_cons (push_of_caretColumn? hheld hcaret)]
    exact below_taken_of_caret rfl rest

end PullDiagnostics.Report.Draft
