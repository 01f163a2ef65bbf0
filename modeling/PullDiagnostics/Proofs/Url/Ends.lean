import Mathlib.Data.List.TakeWhile
import PullDiagnostics.Proofs.Text.Blank
import PullDiagnostics.Proofs.Url.Segments

/-!
# The ends of a URL

A URL starts with its scheme, which the first colon ends, and ends with its query and its fragment,
each behind a mark that nothing before it holds. Blanks and controls around it do not count, so the
last character of a URL that was read is none.

## Main results

* `SettledScheme.splitScheme_append`: a scheme is found again where it was written.
* `SettledTail.readTail_tailText`: a query and a fragment are read as they are written.
* `parse_append`: what of a URL is read behind its scheme.
-/

namespace PullDiagnostics.Url

/-! ### Schemes -/

/-- Whether a scheme leads back to itself. -/
structure SettledScheme (scheme : List Char) : Prop where
  head : (scheme.head?.map Char.isAlpha).getD false = true
  chars : ∀ c ∈ scheme, isSchemeChar c = true
  lower : scheme.map Char.toLower = scheme

/-- No character of a scheme is a blank or a colon, or does not count. -/
theorem isSchemeChar_spec {c : Char} (h : isSchemeChar c = true) :
    0x20 < c.toNat ∧ c ≠ ':' ∧ isIgnored c = false := by
  have hlow : 0x20 < c.toNat := by
    simp only [isSchemeChar, Char.isAlphanum, Char.isDigit, Bool.or_eq_true, Text.isAlpha_iff,
      Bool.and_eq_true, decide_eq_true_eq, ge_iff_le, UInt32.le_iff_toNat_le] at h
    change ((((65 ≤ c.toNat ∧ c.toNat ≤ 90 ∨ 97 ≤ c.toNat ∧ c.toNat ≤ 122) ∨
      (48 ≤ c.toNat ∧ c.toNat ≤ 57)) ∨ c = '+') ∨ c = '-') ∨ c = '.' at h
    rcases h with ((h | rfl) | rfl) | rfl
    · omega
    · decide
    · decide
    · decide
  have hcolon : c ≠ ':' := by
    rintro rfl
    cases h
  exact ⟨hlow, hcolon, isIgnored_eq_false_of_le (Nat.le_of_lt hlow)⟩

/-- A letter in lower case is a letter. -/
theorem isAlpha_toLower {c : Char} (h : c.isAlpha = true) : c.toLower.isAlpha = true := by
  cases hupper : c.isUpper with
  | true => exact Bool.or_eq_true_iff.mpr (.inr (Text.isLower_toLower hupper))
  | false => rwa [Text.toLower_of_not_isUpper hupper]

/-- A scheme may be put in lower case. -/
theorem isSchemeChar_toLower {c : Char} (h : isSchemeChar c = true) :
    isSchemeChar c.toLower = true := by
  cases hupper : c.isUpper with
  | true =>
      have halpha : c.isAlpha = true := Bool.or_eq_true_iff.mpr (.inl hupper)
      simp [isSchemeChar, Char.isAlphanum, isAlpha_toLower halpha]
  | false => rwa [Text.toLower_of_not_isUpper hupper]

namespace SettledScheme

variable {scheme : List Char}

/-- The scheme ends at the first colon. -/
theorem splitScheme_append (h : SettledScheme scheme) (rest : List Char) :
    splitScheme (scheme ++ ':' :: rest) = some (scheme, rest) := by
  have hcolon : ':' ∉ scheme := fun hmem => (isSchemeChar_spec (h.chars _ hmem)).2.1 rfl
  have hvisible : visible scheme = scheme :=
    visible_eq_self fun c hc => (isSchemeChar_spec (h.chars c hc)).2.2
  rw [splitScheme, Text.splitOnce_append hcolon]
  simp only [hvisible, h.head, h.lower, Bool.true_and, List.all_eq_true.mpr h.chars, if_true]

/-- A scheme that is read leads back to itself. -/
theorem of_splitScheme {text rest : List Char} (h : splitScheme text = some (scheme, rest)) :
    SettledScheme scheme := by
  unfold splitScheme at h
  split at h
  next => cases h
  next before after _ =>
    simp only [Option.ite_none_right_eq_some, Bool.and_eq_true, Option.some.injEq,
      Prod.mk.injEq] at h
    obtain ⟨⟨hhead, hchars⟩, rfl, -⟩ := h
    refine ⟨?_, ?_, by simp [Text.toLower_toLower]⟩
    · cases hvisible : visible before with
      | nil =>
          rw [hvisible] at hhead
          cases hhead
      | cons c rest =>
          rw [hvisible] at hhead
          exact isAlpha_toLower hhead
    · intro c hc
      obtain ⟨d, hd, rfl⟩ := List.mem_map.mp hc
      exact isSchemeChar_toLower (List.all_eq_true.mp hchars d hd)

end SettledScheme

/-- Files have one scheme. -/
theorem eq_of_schemeKind_eq_file {scheme : List Char} (h : schemeKind scheme = .file) :
    scheme = "file".toList := by
  unfold schemeKind at h
  split at h
  next hfile => exact hfile
  next =>
    split at h
    · cases h
    · split at h
      · cases h
      · split at h <;> cases h

/-! ### Queries and fragments -/

/-- The set that a query is encoded with. -/
def SchemeKind.querySet (kind : SchemeKind) : Percent.EncodeSet :=
  if kind.isSpecial then Percent.specialQuery else Percent.query

/-- The text of a query and a fragment, with their marks. -/
def tailText (query fragment : Option (List Char)) : List Char :=
  (match query with | none => [] | some q => '?' :: q) ++
    (match fragment with | none => [] | some f => '#' :: f)

/-- Whether a query and a fragment lead back to themselves. -/
structure SettledTail (kind : SchemeKind) (query fragment : Option (List Char)) : Prop where
  query : ∀ q ∈ query, kind.querySet.Clear q
  fragment : ∀ f ∈ fragment, Percent.fragment.Clear f

/-- No query holds the mark of a fragment. -/
theorem SchemeKind.not_mem_of_clear {kind : SchemeKind} {q : List Char}
    (h : kind.querySet.Clear q) : '#' ∉ q := by
  unfold SchemeKind.querySet at h
  split at h
  · exact h.not_mem (by decide)
  · exact h.not_mem (by decide)

/-- No query holds a blank or a control. -/
theorem SchemeKind.lt_toNat_of_clear {kind : SchemeKind} {q : List Char}
    (h : kind.querySet.Clear q) : ∀ c ∈ q, 0x20 < c.toNat := by
  unfold SchemeKind.querySet at h
  split at h
  · exact h.of_add.lt_toNat (by decide)
  · exact h.lt_toNat (by decide)

namespace SettledTail

variable {kind : SchemeKind} {query fragment : Option (List Char)}

/-- A query and a fragment are read as they are written. -/
theorem readTail_tailText (h : SettledTail kind query fragment) :
    readTail kind (tailText query fragment) = (query, fragment) := by
  have hfragment : ∀ f ∈ fragment, Percent.encodeText Percent.fragment f = f := fun f hf =>
    Percent.encodeText_of_clear (h.fragment f hf)
  cases query with
  | none =>
      cases fragment with
      | none => rfl
      | some f => simp [tailText, readTail, hfragment f rfl]
  | some q =>
      have hclear := h.query q rfl
      have hquery : Percent.encodeText (if kind.isSpecial then Percent.specialQuery
          else Percent.query) q = q := Percent.encodeText_of_clear hclear
      have hsharp : '#' ∉ q := SchemeKind.not_mem_of_clear hclear
      have hall : ∀ c ∈ q, (c != '#') = true := fun c hc =>
        bne_iff_ne.mpr (ne_of_mem_of_not_mem hc hsharp)
      cases fragment with
      | none =>
          have htake : q.takeWhile (· != '#') = q := List.takeWhile_eq_self_iff.mpr hall
          simp [tailText, readTail, htake, hquery]
      | some f =>
          have htake : (q ++ '#' :: f).takeWhile (· != '#') = q := by
            rw [List.takeWhile_append_of_pos hall]
            simp
          simp [tailText, readTail, htake, hquery, hfragment f rfl]

/-- A query and a fragment that are read lead back to themselves. -/
theorem of_readTail {text : List Char} (h : readTail kind text = (query, fragment)) :
    SettledTail kind query fragment := by
  have hfragment (text : List Char) :
      Percent.fragment.Clear (Percent.encodeText Percent.fragment text) :=
    Percent.clear_encodeText (Percent.isOpen_controls.add (by decide)) text
  have hopen : Percent.query.IsOpen := Percent.isOpen_controls.add (by decide)
  have hquery (text : List Char) : kind.querySet.Clear (Percent.encodeText kind.querySet text) := by
    unfold SchemeKind.querySet
    split
    · exact Percent.clear_encodeText (hopen.add (by decide)) text
    · exact Percent.clear_encodeText hopen text
  unfold readTail at h
  simp only at h
  split at h
  next =>
    obtain ⟨rfl, rfl⟩ := Prod.mk.inj h
    refine ⟨fun q hq => ?_, fun f hf => ?_⟩
    · obtain rfl := Option.some.inj hq
      exact hquery _
    · split at hf
      next => cases hf
      next =>
        obtain rfl := Option.some.inj hf
        exact hfragment _
  next =>
    obtain ⟨rfl, rfl⟩ := Prod.mk.inj h
    refine ⟨by simp, fun f hf => ?_⟩
    obtain rfl := Option.some.inj hf
    exact hfragment _
  next =>
    obtain ⟨rfl, rfl⟩ := Prod.mk.inj h
    exact ⟨by simp, by simp⟩

/-- Neither holds a blank or a control. -/
theorem lt_toNat (h : SettledTail kind query fragment) :
    ∀ c ∈ tailText query fragment, 0x20 < c.toNat := by
  intro c hc
  rcases List.mem_append.mp hc with hc | hc
  · cases query with
    | none => cases hc
    | some q =>
        rcases List.mem_cons.mp hc with rfl | hc
        · decide
        · exact SchemeKind.lt_toNat_of_clear (h.query q rfl) c hc
  · cases fragment with
    | none => cases hc
    | some f =>
        rcases List.mem_cons.mp hc with rfl | hc
        · decide
        · exact Percent.EncodeSet.Clear.lt_toNat (h.fragment f rfl) (by decide) c hc

end SettledTail

/-- What is left of a list when its longest stretch of a kind is dropped. -/
theorem drop_length_takeWhile {α : Type} (p : α → Bool) (xs : List α) :
    xs.drop (xs.takeWhile p).length = xs.dropWhile p := by
  induction xs with
  | nil => rfl
  | cons x xs ih =>
      cases h : p x with
      | false => simp [h]
      | true => simp [h, ih]

/-- Without a query and a fragment the path is all of a text. -/
theorem takeWhile_eq_self_of_readTail {kind : SchemeKind} {text : List Char}
    (h : readTail kind (text.drop (text.takeWhile (!endsPath ·)).length) = (none, none)) :
    text.takeWhile (!endsPath ·) = text := by
  have happend := List.takeWhile_append_dropWhile (p := (!endsPath ·)) (l := text)
  rw [drop_length_takeWhile] at h
  cases hrest : text.dropWhile (!endsPath ·) with
  | nil => rwa [hrest, List.append_nil] at happend
  | cons c rest =>
      have hends := List.head?_dropWhile_not (!endsPath ·) text
      rw [hrest] at hends h
      simp only [List.head?_cons, Bool.not_eq_false'] at hends
      have hmark : c = '?' ∨ c = '#' := by simpa [endsPath] using hends
      rcases hmark with rfl | rfl
      · simp [readTail] at h
      · simp [readTail] at h

/-- Nothing is written where there is neither a query nor a fragment. -/
theorem tailText_eq_nil_iff {query fragment : Option (List Char)} :
    tailText query fragment = [] ↔ query = none ∧ fragment = none := by
  cases query <;> cases fragment <;> simp [tailText]

/-- The path ends where the tail starts. -/
theorem takeWhile_append_tailText {ends : Char → Bool} (hquestion : ends '?' = true)
    (hsharp : ends '#' = true) {text : List Char} (h : ∀ c ∈ text, ends c = false)
    (query fragment : Option (List Char)) :
    (text ++ tailText query fragment).takeWhile (!ends ·) = text := by
  rw [List.takeWhile_append_of_pos fun c hc => by rw [h c hc]; rfl]
  cases query with
  | none =>
      cases fragment with
      | none => simp [tailText]
      | some f => simp [tailText, hsharp]
  | some q => simp [tailText, hquestion]

/-- A query or a fragment behind a text puts no slash at its start. -/
theorem head?_append_tailText {text : List Char} (h : text.head? ≠ some '/')
    {query fragment : Option (List Char)} :
    (text ++ tailText query fragment).head? ≠ some '/' := by
  cases text with
  | nil => cases query <;> cases fragment <;> simp [tailText]
  | cons c rest => exact h

/-- A URL gets the query and the fragment that are written behind its path. -/
theorem finish_tailText {kind : SchemeKind} {query fragment : Option (List Char)}
    (h : SettledTail kind query fragment) (scheme : List Char) (authority : Option Authority)
    (path : UrlPath) :
    finish kind scheme authority path (tailText query fragment) =
      ⟨scheme, authority, path, query, fragment⟩ := by
  simp only [finish, h.readTail_tailText]

/-! ### Around a URL -/

/-- Nothing is trimmed from a text without margin. -/
theorem trimMargin_eq_self {text : List Char} (hhead : ∀ c ∈ text.head?, isMargin c = false)
    (hlast : ∀ c ∈ text.getLast?, isMargin c = false) : trimMargin text = text := by
  have hdrop {text : List Char} (h : ∀ c ∈ text.head?, isMargin c = false) :
      text.dropWhile isMargin = text := by
    cases text with
    | nil => rfl
    | cons c rest => rw [List.dropWhile_cons, h c rfl, if_neg Bool.false_ne_true]
  rw [trimMargin, hdrop hhead, hdrop (by simpa using hlast), List.reverse_reverse]

/-- Only a blank at the end of a URL in ASCII without controls does not count. -/
theorem parse_append {scheme rest : List Char} (hscheme : SettledScheme scheme)
    (hrest : ∀ c ∈ rest, 0x20 ≤ c.toNat) (hlast : rest.getLast? ≠ some ' ') :
    parse (scheme ++ ':' :: rest) =
      match schemeKind scheme with
      | .file => readFile scheme rest
      | .special port =>
          readAfterSlashes (.special port) scheme (rest.dropWhile (isSlash (.special port)))
      | .other => readOther scheme rest := by
  have hignored : ∀ c ∈ rest, isIgnored c = false := fun c hc =>
    isIgnored_eq_false_of_le (hrest c hc)
  have htrim : trimMargin (scheme ++ ':' :: rest) = scheme ++ ':' :: rest := by
    refine trimMargin_eq_self (fun c hc => ?_) fun c hc => ?_
    · cases scheme with
      | nil => cases hscheme.head
      | cons d more =>
          obtain rfl : d = c := Option.some.inj hc
          have hlow := (isSchemeChar_spec (hscheme.chars d (List.mem_cons_self ..))).1
          simpa [isMargin] using hlow
    · rw [List.getLast?_append, List.getLast?_cons] at hc
      cases hrestLast : rest.getLast? with
      | none =>
          rw [hrestLast] at hc
          obtain rfl : ':' = c := Option.some.inj hc
          decide
      | some d =>
          rw [hrestLast] at hc hlast
          obtain rfl : d = c := Option.some.inj hc
          have hge := hrest d (List.mem_of_getLast? hrestLast)
          have hne : d.toNat ≠ 0x20 := fun heq =>
            hlast (congrArg some (Char.toNat_inj.mp (heq.trans rfl)))
          simp only [isMargin, decide_eq_false_iff_not]
          omega
  rw [parse, htrim, hscheme.splitScheme_append]
  have hvisible : visible rest = rest := visible_eq_self hignored
  cases hkind : schemeKind scheme with
  | file => simp only [hkind]
  | special port => simp only [hkind, hvisible]
  | other => simp only [hkind, hvisible]

/-- In a text that can be seen throughout everything counts. -/
theorem parse_append_of_lt {scheme rest : List Char} (hscheme : SettledScheme scheme)
    (hrest : ∀ c ∈ rest, 0x20 < c.toNat) :
    parse (scheme ++ ':' :: rest) =
      match schemeKind scheme with
      | .file => readFile scheme rest
      | .special port =>
          readAfterSlashes (.special port) scheme (rest.dropWhile (isSlash (.special port)))
      | .other => readOther scheme rest :=
  parse_append hscheme (fun c hc => Nat.le_of_lt (hrest c hc)) fun hlast =>
    absurd (hrest ' ' (List.mem_of_getLast? hlast)) (by decide)

end PullDiagnostics.Url
