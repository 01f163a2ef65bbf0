import PullDiagnostics.Digest

/-!
# Fingerprints

Whether a cached answer still holds is decided by the content of the file alone, never by
its times. A fingerprint is the first eight bytes of the digest of the content, the lowest
byte first.
-/

namespace PullDiagnostics

/-- The fingerprint of a file's content. -/
structure Fingerprint where
  value : UInt64
  deriving DecidableEq, Inhabited

namespace Fingerprint

/-- The fingerprint of some bytes. -/
def ofBytes (bytes : Bytes) : Fingerprint :=
  let digest := Digest.ofBytes bytes
  ⟨(Digest.wordAt digest 0).toUInt64 ||| ((Digest.wordAt digest 1).toUInt64 <<< 32)⟩

/-- Sixteen hexadecimal digits. -/
def render (f : Fingerprint) : String :=
  String.ofList (Hex.padded 16 f.value.toNat)

end Fingerprint

end PullDiagnostics
