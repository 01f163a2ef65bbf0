import Mathlib.Tactic.SplitIfs
import PullDiagnostics.Protocol.Frame

/-!
# Frames take bytes

Whatever is read at the beginning of a stream, a header, all headers or a frame, ends behind its
beginning. So a stream holds no more frames than bytes.

## Main results

* `Frame.length_lt_of_readHeaders`: headers end with a line of their own.
* `Frame.length_lt_of_read`: what follows a frame is shorter than the stream.
-/

namespace PullDiagnostics.Protocol.Frame

/-- A name ends with its colon. -/
theorem length_lt_of_readName {name bytes value rest : Bytes}
    (h : readName name bytes = .found value rest) : rest.length < bytes.length := by
  induction bytes generalizing name with
  | nil => cases h
  | cons b more ih =>
      rw [readName] at h
      split_ifs at h
      · obtain ⟨-, rfl⟩ := Scan.found.inj h
        exact Nat.lt_succ_self _
      · exact Nat.lt_succ_of_lt (ih h)

/-- A value ends with its line. -/
theorem length_lt_of_readHeaderValue {value bytes whole rest : Bytes}
    (h : readHeaderValue value bytes = .found whole rest) : rest.length < bytes.length := by
  induction bytes generalizing value with
  | nil => cases h
  | cons b more ih =>
      cases more with
      | nil =>
          rw [readHeaderValue] at h
          split_ifs at h
          obtain ⟨-, rfl⟩ := Scan.found.inj h
          exact Nat.lt_succ_self _
      | cons c more =>
          rw [readHeaderValue] at h
          split_ifs at h
          · obtain ⟨-, rfl⟩ := Scan.found.inj h
            exact Nat.lt_succ_self _
          · obtain ⟨-, rfl⟩ := Scan.found.inj h
            exact Nat.lt_succ_of_lt (Nat.lt_succ_self _)
          · exact Nat.lt_succ_of_lt (ih h)

/-- Headers end with a line of their own. -/
theorem length_lt_of_readHeaders {room : Nat} {bytes : Bytes} {headers : List (Bytes × Bytes)}
    {rest : Bytes} (h : readHeaders room bytes = .found headers rest) :
    rest.length < bytes.length := by
  fun_induction readHeaders room bytes generalizing headers with
  | case2 =>
      obtain ⟨-, rfl⟩ := Scan.found.inj h
      exact Nat.lt_succ_self _
  | case4 =>
      obtain ⟨-, rfl⟩ := Scan.found.inj h
      exact Nat.lt_succ_of_lt (Nat.lt_succ_self _)
  | case14 b more _ _ _ room name afterName hname value afterValue hvalue others _ hothers ih =>
      obtain ⟨-, rfl⟩ := Scan.found.inj h
      have hlast := ih hothers
      have hmiddle := length_lt_of_readHeaderValue hvalue
      have hfirst := length_lt_of_readName hname
      omega
  | _ => cases h

/-- **Every frame takes bytes**, with a message in it or without. -/
theorem length_lt_of_read {bytes rest : Bytes}
    (h : read bytes = .blank rest ∨ ∃ m, read bytes = .message m rest) :
    rest.length < bytes.length := by
  rw [read] at h
  split at h
  next => simp at h
  next => simp at h
  next headers body hheaders =>
    have hbody := length_lt_of_readHeaders hheaders
    split at h
    next => simp at h
    next n _ =>
      split_ifs at h
      · simp at h
      · obtain rfl : body = rest := by simpa using h
        exact hbody
      · split at h
        next => simp at h
        next =>
          obtain rfl : body.drop n = rest := by simpa using h
          rw [List.length_drop]
          omega

end PullDiagnostics.Protocol.Frame
