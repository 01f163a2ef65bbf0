import Mathlib.Data.List.Induction
import Mathlib.Data.List.Infix
import Mathlib.Order.Bounds.Basic
import PullDiagnostics.Versions

/-!
# Histories of versions

A document lives from when it is opened, or changed without having been opened, until it is closed.
A client can spell its name in any way, and what it tells of one document has nothing to do with
what it tells of another. This module gives what a client tells as a list, `Versions.run`, and says
which numbers count in the present life of a document: that of the last opening, and those of the
changes after it.

## Main results

* `mem_counted_append`: what one more piece of news does to the numbers that count.
* `isLive_iff_nonempty_counted`: a document lives exactly if a number counts.
* `isLatest_run`: the number that is remembered is the greatest one that counts.
* `accepts_iff_of_isLatest`: which changes have come in order.
-/

namespace PullDiagnostics.Versions

/-- What a client tells of a document. -/
inductive News where
  | opened (version : Int)
  | changed (version : Int)
  | closed
  deriving DecidableEq

namespace News

/-- The number that comes with a piece of news. -/
def version? : News → Option Int
  | .opened version | .changed version => some version
  | .closed => none

/-- Whether the numbers before a piece of news count on. -/
def isChange : News → Bool
  | .changed _ => true
  | .opened _ | .closed => false

end News

/-! ### The life of one document

What was told of a document is a list here, the oldest news first. -/

/-- Whether a document lives: it was opened or changed, and not closed since. -/
def IsLive (news : List News) : Prop :=
  ∃ first later, first :: later <:+ news ∧ first ≠ .closed ∧ .closed ∉ later

/-- The numbers that count: those that came with an opening or a change and were followed by
nothing but changes. So of openings only the last one can count, and nothing counts from before it
or from before the document was closed. -/
def counted (news : List News) : Set Int :=
  {version | ∃ first later, first :: later <:+ news ∧ first.version? = some version ∧
    ∀ n ∈ later, n.isChange = true}

/-- Whether a number is the greatest one that counts; there is none if nothing counts. -/
def IsLatest (current : Option Int) (numbers : Set Int) : Prop :=
  match current with
  | some version => IsGreatest numbers version
  | none => numbers = ∅

section Life

variable {news : List News} {n : News} {version : Int}

/-- A suffix of a list with one more at its end is that one alone, or a suffix before with it.
-/
theorem cons_suffix_append_singleton_iff {α : Type} {l later : List α} {first last : α} :
    first :: later <:+ l ++ [last] ↔
      later = [] ∧ first = last ∨ ∃ rest, later = rest ++ [last] ∧ first :: rest <:+ l := by
  rw [List.suffix_concat_iff]
  constructor
  · rintro (hnil | ⟨t, hlater, ht⟩)
    · cases hnil
    · cases t with
      | nil =>
          cases hlater
          exact .inl ⟨rfl, rfl⟩
      | cons f rest =>
          cases hlater
          exact .inr ⟨rest, rfl, ht⟩
  · rintro (⟨rfl, rfl⟩ | ⟨rest, rfl, hrest⟩)
    · exact .inr ⟨[], rfl, List.nil_suffix⟩
    · exact .inr ⟨first :: rest, rfl, hrest⟩

/-- A piece of news brings its own number, and a change leaves those that counted before. -/
theorem mem_counted_append :
    version ∈ counted (news ++ [n]) ↔
      n.version? = some version ∨ n.isChange = true ∧ version ∈ counted news := by
  constructor
  · rintro ⟨first, later, hsuffix, hversion, hlater⟩
    rcases cons_suffix_append_singleton_iff.mp hsuffix with ⟨rfl, rfl⟩ | ⟨rest, rfl, hrest⟩
    · exact .inl hversion
    · exact .inr ⟨hlater n (by simp), first, rest, hrest, hversion,
        fun m hm => hlater m (List.mem_append_left _ hm)⟩
  · rintro (hversion | ⟨hchange, first, rest, hrest, hversion, hlater⟩)
    · exact ⟨n, [], cons_suffix_append_singleton_iff.mpr (.inl ⟨rfl, rfl⟩), hversion, by simp⟩
    · refine ⟨first, rest ++ [n], cons_suffix_append_singleton_iff.mpr (.inr ⟨rest, rfl, hrest⟩),
        hversion, fun m hm => ?_⟩
      rcases List.mem_append.mp hm with hm | hm
      · exact hlater m hm
      · exact List.mem_singleton.mp hm ▸ hchange

@[simp]
theorem counted_nil : counted [] = ∅ := by
  simp [counted]

/-- An opening makes its number the only one that counts. -/
@[simp]
theorem counted_append_opened : counted (news ++ [.opened version]) = {version} := by
  ext v
  simp [mem_counted_append, News.version?, News.isChange, eq_comm]

/-- A change adds its number to those that count. -/
@[simp]
theorem counted_append_changed :
    counted (news ++ [.changed version]) = insert version (counted news) := by
  ext v
  simp [mem_counted_append, News.version?, News.isChange, eq_comm]

/-- After a closing nothing counts. -/
@[simp]
theorem counted_append_closed : counted (news ++ [.closed]) = ∅ := by
  ext v
  simp [mem_counted_append, News.version?, News.isChange]

/-- The last piece of news says whether a document lives. -/
theorem isLive_append_iff : IsLive (news ++ [n]) ↔ n ≠ .closed := by
  constructor
  · rintro ⟨first, later, hsuffix, hfirst, hlater⟩ rfl
    rcases cons_suffix_append_singleton_iff.mp hsuffix with ⟨-, rfl⟩ | ⟨rest, rfl, -⟩
    · exact hfirst rfl
    · exact hlater (by simp)
  · exact fun hn =>
      ⟨n, [], cons_suffix_append_singleton_iff.mpr (.inl ⟨rfl, rfl⟩), hn, List.not_mem_nil⟩

/-- A document lives exactly if a number counts. -/
theorem isLive_iff_nonempty_counted : IsLive news ↔ (counted news).Nonempty := by
  cases news using List.reverseRecOn with
  | nil => simp [IsLive]
  | append_singleton news n => cases n <;> simp [isLive_append_iff]

/-- There is no number if nothing counts. -/
theorem IsLatest.eq_none_iff {current : Option Int} {numbers : Set Int}
    (h : IsLatest current numbers) : current = none ↔ numbers = ∅ := by
  cases current with
  | none => exact iff_of_true rfl h
  | some version => exact iff_of_false (by simp) (Set.nonempty_iff_ne_empty.mp ⟨version, h.1⟩)

/-- The number is the greatest one that counts. -/
theorem IsLatest.eq_some_iff {current : Option Int} {numbers : Set Int}
    (h : IsLatest current numbers) : current = some version ↔ IsGreatest numbers version := by
  cases current with
  | none =>
      obtain rfl : numbers = ∅ := h
      simp [IsGreatest]
  | some greatest =>
      constructor
      · rintro ⟨⟩
        exact h
      · exact fun hversion => congrArg some (IsGreatest.unique h hversion)

end Life

/-! ### News of many documents -/

/-- The numbers after one more piece of news. -/
def hear (vs : Versions) : DocumentUri × News → Versions
  | (d, .opened version) => vs.opened d version
  | (d, .changed version) => vs.changed d version
  | (d, .closed) => vs.closed d

/-- The numbers after all that was told, the oldest news first. -/
def run (told : List (DocumentUri × News)) : Versions :=
  told.foldl hear {}

/-- What was told of one document. -/
def newsOf (d : DocumentUri) (told : List (DocumentUri × News)) : List News :=
  (told.filter fun (e, _) => e = d).map (·.2)

/-- What is told under spellings of names, each of which is read as that of a document or of
none. -/
def read {σ : Type} (document? : σ → Option DocumentUri) (told : List (σ × News)) :
    List (DocumentUri × News) :=
  told.filterMap fun (spelling, n) => (document? spelling).map (·, n)

section Run

variable {vs : Versions} {d e : DocumentUri} {n : News} {told : List (DocumentUri × News)}

/-- News of one document leave all others alone. -/
theorem get?_hear_of_ne (h : d ≠ e) : (vs.hear (e, n)).get? d = vs.get? d := by
  cases n with
  | opened version => rw [hear, get?_opened, if_neg h]
  | changed version => rw [hear, get?_changed, if_neg fun hd => h hd.1]
  | closed => rw [hear, get?_closed, if_neg h]

/-- What is told later is heard later. -/
theorem run_append (told more : List (DocumentUri × News)) :
    run (told ++ more) = more.foldl hear (run told) :=
  List.foldl_append

/-- News of a document comes behind what was told of it. -/
theorem newsOf_append_self : newsOf d (told ++ [(d, n)]) = newsOf d told ++ [n] := by
  simp [newsOf]

/-- News of another document changes nothing about what was told of one. -/
theorem newsOf_append_of_ne (h : d ≠ e) : newsOf d (told ++ [(e, n)]) = newsOf d told := by
  simp [newsOf, h.symm]

/-- A change has come in order if no number that counts is greater. -/
theorem accepts_iff_of_isLatest {numbers : Set Int} (h : IsLatest (vs.get? d) numbers)
    {version : Int} : vs.accepts d version = true ↔ version ∈ upperBounds numbers := by
  unfold accepts
  generalize vs.get? d = current at h
  cases current with
  | none =>
      obtain rfl : numbers = ∅ := h
      simp
  | some greatest =>
      rw [decide_eq_true_eq]
      exact isLUB_le_iff (IsGreatest.isLUB h)

/-- One more piece of news keeps it so that the greatest number that counts is remembered. -/
theorem isLatest_hear {news : List News} (h : IsLatest (vs.get? d) (counted news)) (n : News) :
    IsLatest ((vs.hear (d, n)).get? d) (counted (news ++ [n])) := by
  cases n with
  | opened version =>
      rw [hear, get?_opened, if_pos rfl, counted_append_opened]
      exact isGreatest_singleton
  | changed version =>
      rw [hear, get?_changed, counted_append_changed]
      split
      next haccepted =>
        have hbound : version ∈ upperBounds (counted news) :=
          (accepts_iff_of_isLatest h).mp haccepted.2
        exact ⟨Set.mem_insert _ _, by simpa [upperBounds_insert] using hbound⟩
      next hlate =>
        -- A change that comes late has a number below the one that is remembered.
        generalize hcurrent : vs.get? d = current at h
        cases current with
        | none => simp [accepts, hcurrent] at hlate
        | some greatest =>
            have hlt : version < greatest := by simpa [accepts, hcurrent] using hlate
            exact ⟨Set.mem_insert_of_mem _ h.1, by
              simpa [upperBounds_insert, hlt.le] using h.2⟩
  | closed =>
      rw [hear, get?_closed, if_pos rfl, counted_append_closed]
      rfl

/-- **The number that is remembered** of a document is the greatest one that counts. -/
theorem isLatest_run (told : List (DocumentUri × News)) (d : DocumentUri) :
    IsLatest ((run told).get? d) (counted (newsOf d told)) := by
  induction told using List.reverseRecOn with
  | nil => exact counted_nil
  | append_singleton told last ih =>
      obtain ⟨e, n⟩ := last
      rw [run_append, List.foldl_cons, List.foldl_nil]
      by_cases h : d = e
      · subst h
        rw [newsOf_append_self]
        exact isLatest_hear ih n
      · rw [newsOf_append_of_ne h, get?_hear_of_ne h]
        exact ih

end Run

end PullDiagnostics.Versions
