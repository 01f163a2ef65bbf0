import PullDiagnostics.Finding
import PullDiagnostics.Proofs.Url.Files

/-!
# Documents at paths

Every absolute path names a document, for its URL is always read.

## Main results

* `DocumentUri.isSome_ofPath?`: exactly the absolute paths name documents.
-/

namespace PullDiagnostics

namespace DocumentUri

/-- **Documents at paths.** Exactly the absolute paths name documents. -/
theorem isSome_ofPath? (p : FilePath) : (ofPath? p).isSome = p.isAbsolute := by
  cases h : p.isAbsolute with
  | false => simp [ofPath?, urlOfPath?, Url.ofPath?, h]
  | true =>
      obtain ⟨first, others, hpath⟩ := Url.exists_ofPath?_eq_some h
      obtain ⟨u, hu⟩ := Url.exists_parse_eq_ok (first ++ others.flatMap ('/' :: ·))
      rw [ofPath?, urlOfPath?, hpath, Option.bind_some, Url.write_segments, hu]
      rfl

end DocumentUri

/-- A finding is about a document exactly if its path is absolute. -/
theorem Finding.isSome_uri? (f : Finding) : f.uri?.isSome = f.path.isAbsolute :=
  DocumentUri.isSome_ofPath? f.path

end PullDiagnostics
