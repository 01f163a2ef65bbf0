import PullDiagnostics.FilePath
import PullDiagnostics.Glob.Expression

/-!
# Source sets

A source set says which files are analysed: those under its roots with one of its
extensions, except those that one of its patterns matches. Patterns are held against the
path below the root, so a file under two roots may be excluded from one and not from the
other.

* `covers_iff`: a path is covered exactly if it has the extension and lies under a root
  that does not exclude it.
-/

namespace PullDiagnostics

/-- The files that are analysed. -/
structure SourceSet where
  roots : List FilePath
  extensions : List String := []
  exclude : List Glob := []
  deriving Inhabited

/-- Why there is no source set. -/
inductive SourceError where
  /-- A pattern cannot be read. -/
  | pattern (text : String) (cause : Glob.Error)
  /-- The patterns make no set. -/
  | set (cause : Glob.SetError)
  deriving DecidableEq, Inhabited

/-- What is said of patterns that give no source set. -/
def SourceError.message : SourceError → String
  | .pattern text cause => "invalid exclude pattern `" ++ text ++ "`: " ++ cause.message text
  | .set cause => "invalid exclude pattern `<set>`: " ++ cause.message

namespace SourceSet

/-- An extension without the dots before it. -/
def bareExtension (extension : String) : String :=
  String.ofList (extension.toList.dropWhile (· == '.'))

/-- Extensions without dots before them, those that are nothing else left out. -/
def bareExtensions (extensions : List String) : List String :=
  (extensions.map bareExtension).filter (!·.isEmpty)

/-- Reads patterns. -/
def readPatterns : List String → Except SourceError (List Glob)
  | [] => .ok []
  | pattern :: rest =>
      match Glob.parse false pattern.toList with
      | .error cause => .error (.pattern pattern cause)
      | .ok glob => (readPatterns rest).map (glob :: ·)

/-- A source set of extensions, with or without dots, and patterns. -/
def build (roots : List FilePath) (extensions patterns : List String) :
    Except SourceError SourceSet :=
  match readPatterns patterns with
  | .error e => .error e
  | .ok exclude =>
      match Glob.setError? false exclude with
      | some cause => .error (.set cause)
      | none => .ok ⟨roots, bareExtensions extensions, exclude⟩

/-- A source set that excludes nothing. -/
def withoutExclusions (roots : List FilePath) (extensions : List String) : SourceSet :=
  ⟨roots, bareExtensions extensions, []⟩

/-- Whether a path has one of the extensions. -/
def hasExtension (s : SourceSet) (p : FilePath) : Bool :=
  match p.extension? with
  | none => false
  | some bytes => s.extensions.any fun known => Utf8.encode known.toList == bytes

/-- Whether a path below a root is excluded. -/
def excludes (s : SourceSet) (relative : FilePath) : Bool :=
  s.exclude.any fun glob => glob.accepts false relative.bytes

/-- Whether a path is one that an analysis could find, as far as the path can tell. -/
def covers (s : SourceSet) (p : FilePath) : Bool :=
  s.hasExtension p && s.roots.any fun root =>
    match p.stripPrefix? root with
    | none => false
    | some relative => !s.excludes relative

/-- A path is covered if it has an extension of the set and lies under a root, as the root is
spelled, that does not exclude it. -/
theorem covers_iff (s : SourceSet) (p : FilePath) :
    s.covers p = true ↔ s.hasExtension p = true ∧
      ∃ root ∈ s.roots, ∃ relative, p.stripPrefix? root = some relative ∧
        s.excludes relative = false := by
  simp only [covers, Bool.and_eq_true, List.any_eq_true]
  refine and_congr_right fun _ => exists_congr fun root => and_congr_right fun _ => ?_
  cases p.stripPrefix? root <;> simp

end SourceSet

end PullDiagnostics
