import Mathlib.Data.List.Basic
import PullDiagnostics.Url.File

/-!
# URLs of files

The URL of a path is written with three slashes after its scheme, and what starts so is always
read, for there is no host in it that could be refused.

## Main results

* `exists_parse_eq_ok`: what starts with three slashes after the scheme of files is a URL.
* `exists_ofPath?_eq_some`: every absolute path has a URL.
-/

namespace PullDiagnostics.Url

/-- What stands before the path in the URL of a file without a host. -/
def fileMark : List Char := ['f', 'i', 'l', 'e', ':', '/', '/']

/-- Trimming leaves alone what stands before a slash. -/
theorem exists_trimMargin_eq (rest : List Char) :
    ∃ kept, trimMargin (fileMark ++ '/' :: rest) = fileMark ++ '/' :: kept := by
  refine ⟨(rest.reverse.dropWhile isMargin).reverse, ?_⟩
  have hfront : (fileMark ++ '/' :: rest).dropWhile isMargin = fileMark ++ '/' :: rest := rfl
  have hback : ('/' :: fileMark.reverse).dropWhile isMargin = '/' :: fileMark.reverse := rfl
  rw [trimMargin, hfront, List.reverse_append, List.reverse_cons, List.append_assoc,
    List.singleton_append, List.dropWhile_append]
  split
  next hempty => simp [List.isEmpty_iff.mp hempty, hback]
  next => simp

theorem afterSlash?_cons (rest : List Char) : afterSlash? ('/' :: rest) = some rest := by
  simp [afterSlash?, isIgnored, isSlash]

/-- Behind two slashes a third one leaves no place for a host. -/
theorem readFileSlashes_cons (rest : List Char) :
    readFileSlashes ('/' :: rest) = .ok (.name [], '/' :: rest) := by
  simp [readFileSlashes, isSlash, visible, isDriveLetter, readFileHost, Bind.bind, Except.bind,
    Pure.pure, Except.pure]

/-- **The URLs of files.** What starts with three slashes after the scheme of files is a URL. -/
theorem exists_parse_eq_ok (rest : List Char) :
    ∃ u, parse (fileMark ++ '/' :: rest) = .ok u := by
  obtain ⟨kept, htrim⟩ := exists_trimMargin_eq rest
  have hscheme : splitScheme (fileMark ++ '/' :: kept) =
      some ("file".toList, '/' :: '/' :: '/' :: kept) := rfl
  have hpath : ('/' :: '/' :: '/' :: kept).takeWhile (!endsPath ·) =
      '/' :: '/' :: '/' :: kept.takeWhile (!endsPath ·) := rfl
  have hkind : schemeKind "file".toList = .file := rfl
  simp only [parse, htrim, hscheme, hkind, readFile, hpath, afterSlash?_cons,
    readFileSlashes_cons, Bind.bind, Except.bind, Pure.pure, Except.pure]
  exact ⟨_, rfl⟩

/-- The URL of an absolute path has a segment at least. -/
theorem exists_ofPath?_eq_some {p : FilePath} (h : p.isAbsolute = true) :
    ∃ first others, ofPath? p =
      some ⟨"file".toList, some localHost, .segments (first :: others), none, none⟩ := by
  unfold ofPath?
  rw [if_pos h]
  cases p.components.tail.map fun c => Percent.encode Percent.pathSegment (componentText c) with
  | nil => exact ⟨[], [], rfl⟩
  | cons first others => exact ⟨first, others, rfl⟩

/-- How the URL of an absolute path is written. -/
theorem write_segments (first : List Char) (others : List (List Char)) :
    write ⟨"file".toList, some localHost, .segments (first :: others), none, none⟩ =
      fileMark ++ '/' :: (first ++ others.flatMap ('/' :: ·)) := by
  simp [write, writeAuthority, Authority.write, Host.write, localHost, UrlPath.write, fileMark]

end PullDiagnostics.Url
