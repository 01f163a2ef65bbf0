import PullDiagnostics.Proofs.Url.Hosts

/-!
# Authorities that are read again

What belongs to a host stands around it: a user name and a password before an at sign, a port
behind a colon. None of these marks stands in the parts themselves, for there it is encoded or
refused, so the parts are found again.

## Main results

* `Url.readAuthority_write`: a settled authority is read as it is written.
* `Url.settled_of_readAuthority`: an authority that was read is settled, if its host is read again.
-/

namespace PullDiagnostics

open Percent (userInfo)

/-- How the host of a URL is read. -/
def Url.SchemeKind.parseHost (kind : SchemeKind) (text : List Char) : Except UrlError Host :=
  if kind.isSpecial then Host.parseSpecial text else Host.parseOther text

/-- The choice between the two kinds of hosts may be made before what follows it. -/
theorem Url.SchemeKind.parseHost_bind {α : Type} (kind : SchemeKind) (text : List Char)
    (next : Host → Except UrlError α) :
    (if kind.isSpecial = true then Host.parseSpecial text >>= next
      else Host.parseOther text >>= next) = kind.parseHost text >>= next := by
  unfold parseHost
  split <;> rfl

/-- Whether the host of a URL with a well-known scheme is read, and not refused, where it is
written. An empty one needs not be. -/
def Url.HostIsRead (u : Url) : Prop :=
  (schemeKind u.scheme).isSpecial = true → ∀ a ∈ u.authority, a.host ≠ .name [] →
    ∃ host, Host.parseSpecial a.host.write = .ok host

/-- Whether an authority leads back to itself. -/
structure Authority.Settled (kind : Url.SchemeKind) (a : Authority) : Prop where
  user : userInfo.Clear a.user
  password : ∀ p ∈ a.password, userInfo.Clear p ∧ p ≠ []
  host : a.host.Settled kind.parseHost
  port : ∀ n ∈ a.port, n ≤ 65535 ∧ some n ≠ kind.usualPort
  alone : a.host = .name [] → a.user = [] ∧ a.password = none ∧ a.port = none

namespace Authority

/-- The text of a user name and a password. -/
def userText (a : Authority) : List Char :=
  a.user ++ (match a.password with | none => [] | some p => ':' :: p)

/-- The text of a port, with its colon. -/
def portText (a : Authority) : List Char :=
  match a.port with
  | none => []
  | some n => ':' :: Nat.toDigits 10 n

/-- An authority is written as the user with an at sign, the host and the port, as far as there
are any. -/
theorem write_eq (a : Authority) :
    a.write = (if a.userText.isEmpty then [] else a.userText ++ ['@']) ++
      (a.host.write ++ a.portText) := by
  exact List.append_assoc _ _ _

/-- The text of a port is empty or starts with a colon. -/
theorem portText_eq (a : Authority) : a.portText = [] ∨ ∃ digits, a.portText = ':' :: digits := by
  unfold portText
  cases a.port with
  | none => exact .inl rfl
  | some n => exact .inr ⟨_, rfl⟩

/-- A port is written with a colon and digits. -/
theorem mem_portText {a : Authority} {c : Char} (hc : c ∈ a.portText) :
    c = ':' ∨ Text.isDigit c = true := by
  unfold portText at hc
  cases hport : a.port with
  | none => simp [hport] at hc
  | some n =>
      rw [hport] at hc
      rcases List.mem_cons.mp hc with rfl | hc
      · exact .inl rfl
      · exact .inr (Text.isDigit_of_mem_toDigits hc)

namespace Settled

variable {kind : Url.SchemeKind} {a : Authority}

/-- The text before the host is clear but for a colon. -/
theorem mem_userText (h : a.Settled kind) {c : Char} (hc : c ∈ a.userText) :
    c = ':' ∨ ∃ part, userInfo.Clear part ∧ c ∈ part := by
  rcases List.mem_append.mp hc with hc | hc
  · exact .inr ⟨a.user, h.user, hc⟩
  · cases hpassword : a.password with
    | none => simp [hpassword] at hc
    | some p =>
        rw [hpassword] at hc
        rcases List.mem_cons.mp hc with rfl | hc
        · exact .inl rfl
        · exact .inr ⟨p, (h.password p hpassword).1, hc⟩

/-- Nothing in the text of an authority ends it, and all of it can be seen. -/
theorem mem_write (h : a.Settled kind) {c : Char} (hc : c ∈ a.write) :
    0x20 < c.toNat ∧ c ≠ '/' ∧ c ≠ '\\' ∧ c ≠ '?' ∧ c ≠ '#' := by
  rw [write_eq, List.mem_append, List.mem_append] at hc
  rcases hc with hc | hc | hc
  · split at hc
    next => cases hc
    next =>
      rcases List.mem_append.mp hc with hc | hc
      · rcases h.mem_userText hc with rfl | ⟨part, hpart, hc⟩
        · decide
        · exact ⟨hpart.of_add.of_add.lt_toNat (by decide) c hc, hpart.ne hc (by decide),
            hpart.ne hc (by decide), hpart.ne hc (by decide), hpart.ne hc (by decide)⟩
      · rw [List.mem_singleton.mp hc]
        decide
  · have hchar := h.host.chars c hc
    simp [Host.isHostChar] at hchar
    obtain ⟨⟨hlow, -⟩, hsharp, hslash, hquestion, -, hback, -⟩ := hchar
    exact ⟨hlow, hslash, hback, hquestion, hsharp⟩
  · rcases mem_portText hc with rfl | hdigit
    · decide
    · have hne (d : Char) (hd : Text.isDigit d = false) : c ≠ d := by
        rintro rfl
        rw [hd] at hdigit
        cases hdigit
      refine ⟨?_, hne _ (by decide), hne _ (by decide), hne _ (by decide), hne _ (by decide)⟩
      simp only [Text.isDigit, Bool.and_eq_true, decide_eq_true_eq, Char.le_def,
        UInt32.le_iff_toNat_le] at hdigit
      have hlow : 48 ≤ c.toNat := hdigit.1
      omega

/-- No host is refused under a well-known scheme, so more slashes than two are no part of it. -/
theorem dropWhile_isSlash (h : a.Settled kind) (hspecial : kind.isSpecial = true)
    (rest : List Char) : (a.write ++ rest).dropWhile (Url.isSlash kind) = a.write ++ rest := by
  cases hwrite : a.write with
  | nil =>
      have hhost : a.host.write = [] := by
        rw [write_eq, List.append_eq_nil_iff, List.append_eq_nil_iff] at hwrite
        exact hwrite.2.1
      have hparse := h.host.parse_write
      rw [hhost, Url.SchemeKind.parseHost, if_pos hspecial] at hparse
      cases hparse
  | cons c more =>
      obtain ⟨-, hslash, hback, -⟩ := h.mem_write (c := c) (hwrite ▸ List.mem_cons_self ..)
      rw [List.cons_append, List.dropWhile_cons, if_neg (by simp [Url.isSlash, hslash, hback])]

end Settled

end Authority

namespace Url

/-! ### Where the user ends -/

/-- Without an at sign there is no user. -/
theorem splitUser_of_not_mem {text : List Char} (h : '@' ∉ text) :
    splitUser text = (none, text) := by
  have hall : text.reverse.takeWhile (· != '@') = text.reverse :=
    List.takeWhile_eq_self_iff.mpr fun c hc =>
      bne_iff_ne.mpr (ne_of_mem_of_not_mem (List.mem_reverse.mp hc) h)
  simp [splitUser, hall]

/-- The last at sign divides the user from the host. -/
theorem splitUser_append {host : List Char} (h : '@' ∉ host) (user : List Char) :
    splitUser (user ++ '@' :: host) = (some user, host) := by
  have hall : (user ++ '@' :: host).reverse.takeWhile (· != '@') = host.reverse := by
    rw [List.reverse_append, List.reverse_cons, List.append_assoc,
      List.takeWhile_append_of_pos fun c hc =>
        bne_iff_ne.mpr (ne_of_mem_of_not_mem (List.mem_reverse.mp hc) h)]
    simp
  have hlength : ¬ host.length = (user ++ '@' :: host).length := by
    rw [List.length_append, List.length_cons]
    omega
  have huser : (user ++ '@' :: host).length - host.length - 1 = user.length := by
    rw [List.length_append, List.length_cons]
    omega
  simp only [splitUser, hall, List.reverse_reverse, if_neg hlength, huser, List.take_left]

/-- A user name and a password are read as they are written. -/
theorem readUser_userText {kind : SchemeKind} {a : Authority} (h : a.Settled kind) :
    readUser a.userText = (a.user, a.password) := by
  have huser := Percent.encodeText_of_clear h.user
  have hcolon : ':' ∉ a.user := h.user.not_mem (by decide)
  unfold readUser Authority.userText
  cases hpassword : a.password with
  | none =>
      simp [Text.splitOnce_of_not_mem hcolon, huser]
  | some p =>
      obtain ⟨hclear, hne⟩ := h.password p hpassword
      simp only [Text.splitOnce_append hcolon, huser]
      cases p with
      | nil => exact absurd rfl hne
      | cons c rest => simp only [Percent.encodeText_of_clear hclear]

/-- A port is read as it is written. -/
theorem readPort_portText {kind : SchemeKind} {a : Authority} (h : a.Settled kind) :
    readPort kind a.portText.tail = .ok (a.port, []) := by
  unfold Authority.portText
  cases hport : a.port with
  | none => rfl
  | some n =>
      obtain ⟨hle, husual⟩ := h.port n hport
      have hall : (Nat.toDigits 10 n).takeWhile Text.isDigit = Nat.toDigits 10 n :=
        List.takeWhile_eq_self_iff.mpr fun c hc => Text.isDigit_of_mem_toDigits hc
      have hle' : ¬ 65535 < n := by omega
      simp [readPort, hall, Text.numeral_toDigits, hle', husual, Nat.toDigits_ne_nil]

/-- A result behind a guard is there if the guard lets pass. -/
theorem guard_eq_ok_iff {ε α : Type} {p : Prop} [Decidable p] {e : ε} {x : Except ε α} {a : α} :
    (if p then .error e else x) = .ok a ↔ ¬ p ∧ x = .ok a := by
  split
  next h => simp [h]
  next h => simp [h]

/-- What is read of an authority, and what has to hold of it. -/
theorem readAuthority_eq_ok_iff {kind : SchemeKind} {text : List Char} {missing : Bool}
    {userText : Option (List Char)} {hostAndPort : List Char}
    (hsplit : splitUser text = (userText, hostAndPort)) {a : Authority} {after : List Char} :
    readAuthority kind text missing = .ok (a, after) ↔
      ¬ (userText = some [] ∧ hostAndPort = [] ∧ missing = false) ∧
      readUser (userText.getD []) = (a.user, a.password) ∧
      ¬ (takeHost false hostAndPort = [] ∧ kind.isSpecial = true) ∧
      kind.parseHost (takeHost false hostAndPort) = .ok a.host ∧
      ¬ (a.host = .name [] ∧ hostAndPort.drop (takeHost false hostAndPort).length ≠ []) ∧
      readPort kind (hostAndPort.drop (takeHost false hostAndPort).length).tail =
        .ok (a.port, after) ∧
      ¬ (a.host = .name [] ∧ (a.user ≠ [] ∨ a.password.isSome = true)) := by
  obtain ⟨user, password, host, port⟩ := a
  unfold readAuthority
  simp only [hsplit, SchemeKind.parseHost_bind]
  simp only [bind, Except.bind, throw, throwThe, MonadExceptOf.throw, pure, Except.pure]
  simp only [guard_eq_ok_iff]
  cases hparse : kind.parseHost (takeHost false hostAndPort) with
  | error e => simp
  | ok found =>
      cases hport : readPort kind (hostAndPort.drop (takeHost false hostAndPort).length).tail with
      | error e => simp [guard_eq_ok_iff]
      | ok portRead =>
          simp only [guard_eq_ok_iff, Except.ok.injEq, Prod.ext_iff, Authority.mk.injEq]
          simp only [Bool.and_eq_true, Bool.or_eq_true, decide_eq_true_eq, Bool.not_eq_true',
            List.isEmpty_iff, List.isEmpty_eq_false_iff, and_assoc, ne_eq]
          constructor
          · rintro ⟨husers, hhosts, hports, halone, rfl, rfl, rfl, rfl, rfl⟩
            exact ⟨husers, rfl, rfl, hhosts, rfl, hports, rfl, rfl, halone⟩
          · rintro ⟨husers, rfl, rfl, hhosts, rfl, hports, rfl, rfl, halone⟩
            exact ⟨husers, hhosts, hports, halone, rfl, rfl, rfl, rfl, rfl⟩

/-- The user ends at the only at sign; without a user there is none. -/
theorem splitUser_write {kind : SchemeKind} {a : Authority} (h : a.Settled kind) :
    splitUser a.write =
      (if a.userText = [] then none else some a.userText, a.host.write ++ a.portText) := by
  have hat : '@' ∉ a.host.write ++ a.portText := by
    intro hmem
    rcases List.mem_append.mp hmem with hmem | hmem
    · exact absurd (h.host.chars _ hmem) (by decide)
    · rcases Authority.mem_portText hmem with heq | hdigit
      · cases heq
      · revert hdigit
        decide
  rw [Authority.write_eq]
  cases huser : a.userText with
  | nil => simpa using splitUser_of_not_mem hat
  | cons c rest => simpa using splitUser_append hat (c :: rest)

/-- **Written authorities.** A settled authority is read as it is written. -/
theorem readAuthority_write {kind : SchemeKind} {a : Authority} (h : a.Settled kind)
    (missing : Bool) : readAuthority kind a.write missing = .ok (a, []) := by
  have htake := h.host.takeHost_append a.portText a.portText_eq
  rw [readAuthority_eq_ok_iff (splitUser_write h), htake, List.drop_left]
  refine ⟨?_, ?_, ?_, h.host.parse_write, ?_, readPort_portText h, ?_⟩
  · rintro ⟨huser, -, -⟩
    split at huser
    next => cases huser
    next hne => exact hne (Option.some.inj huser)
  · have huser : (if a.userText = [] then none else some a.userText).getD [] = a.userText := by
      split
      next hnil => rw [hnil]; rfl
      next => rfl
    rw [huser, readUser_userText h]
  · -- No host is refused under a well-known scheme.
    rintro ⟨hempty, hspecial⟩
    have hparse := h.host.parse_write
    rw [hempty, SchemeKind.parseHost, if_pos hspecial] at hparse
    cases hparse
  · rintro ⟨hname, hport⟩
    refine hport ?_
    rw [Authority.portText, (h.alone hname).2.2]
  · rintro ⟨hname, huser⟩
    obtain ⟨huser', hpassword, -⟩ := h.alone hname
    rw [huser', hpassword] at huser
    simp at huser

/-! ### What is read -/

/-- A user name and a password are encoded when read, and an empty password is none. -/
theorem settled_of_readUser {text user : List Char} {password : Option (List Char)}
    (h : readUser text = (user, password)) :
    userInfo.Clear user ∧ ∀ p ∈ password, userInfo.Clear p ∧ p ≠ [] := by
  have hclear (text : List Char) : userInfo.Clear (Percent.encodeText userInfo text) :=
    Percent.clear_encodeText (Percent.isOpen_path.add (by decide)) text
  unfold readUser at h
  simp only at h
  split at h
  next =>
    obtain ⟨rfl, rfl⟩ := Prod.mk.inj h
    exact ⟨hclear _, by simp⟩
  next =>
    obtain ⟨rfl, rfl⟩ := Prod.mk.inj h
    exact ⟨hclear _, by simp⟩
  next hne _ =>
    obtain ⟨rfl, rfl⟩ := Prod.mk.inj h
    refine ⟨hclear _, fun p hp => ?_⟩
    obtain rfl := Option.some.inj hp
    exact ⟨hclear _, Percent.encodeText_ne_nil _ fun hnil => hne hnil⟩

/-- A port that is read is small enough, and not the one that goes without saying. -/
theorem settled_of_readPort {kind : SchemeKind} {text after : List Char} {port : Option ℕ}
    (h : readPort kind text = .ok (port, after)) :
    ∀ n ∈ port, n ≤ 65535 ∧ some n ≠ kind.usualPort := by
  unfold readPort at h
  simp only [guard_eq_ok_iff, Bool.or_eq_true, decide_eq_true_eq, not_or] at h
  obtain ⟨⟨hle, -⟩, h⟩ := h
  split at h
  next =>
    obtain ⟨rfl, -⟩ := Prod.mk.inj (Except.ok.inj h)
    simp
  next husual =>
    obtain ⟨rfl, -⟩ := Prod.mk.inj (Except.ok.inj h)
    simp only [not_or] at husual
    rintro n hn
    obtain rfl := Option.some.inj hn
    exact ⟨by omega, husual.2⟩

/-- A host that was read is settled, if it is not refused where it is written. -/
theorem SchemeKind.settled_of_parseHost {kind : SchemeKind} {text : List Char} {h : Host}
    (hparse : kind.parseHost text = .ok h)
    (hread : kind.isSpecial = true → h ≠ .name [] →
      ∃ again, Host.parseSpecial h.write = .ok again) :
    h.Settled kind.parseHost := by
  cases hspecial : kind.isSpecial with
  | true =>
      have hkind : kind.parseHost = Host.parseSpecial := by
        funext text
        rw [parseHost, if_pos hspecial]
      rw [hkind] at hparse ⊢
      obtain ⟨hne, hsettled⟩ := Host.settled_of_parseSpecial hparse
      obtain ⟨again, hagain⟩ := hread hspecial hne
      exact hsettled again hagain
  | false =>
      have hkind : kind.parseHost = Host.parseOther := by
        funext text
        rw [parseHost, hspecial, if_neg Bool.false_ne_true]
      rw [hkind] at hparse ⊢
      exact Host.settled_of_parseOther hparse

/-- **Authorities that were read.** They are settled, if their host is not refused. -/
theorem settled_of_readAuthority {kind : SchemeKind} {text after : List Char} {missing : Bool}
    {a : Authority} (h : readAuthority kind text missing = .ok (a, after))
    (hhost : kind.isSpecial = true → a.host ≠ .name [] →
      ∃ again, Host.parseSpecial a.host.write = .ok again) :
    a.Settled kind := by
  obtain ⟨userText, hostAndPort, hsplit⟩ :
      ∃ userText hostAndPort, splitUser text = (userText, hostAndPort) := ⟨_, _, rfl⟩
  obtain ⟨-, huser, -, hparse, hport, hread, halone⟩ := (readAuthority_eq_ok_iff hsplit).mp h
  obtain ⟨hclear, hpassword⟩ := settled_of_readUser huser
  refine ⟨hclear, hpassword, SchemeKind.settled_of_parseHost hparse hhost,
    settled_of_readPort hread, ?_⟩
  intro hname
  have hnone : hostAndPort.drop (takeHost false hostAndPort).length = [] :=
    Decidable.byContradiction fun hne => hport ⟨hname, hne⟩
  have huser : a.user = [] :=
    Decidable.byContradiction fun hne => halone ⟨hname, .inl hne⟩
  have hpassword : a.password = none :=
    Option.not_isSome_iff_eq_none.mp fun hsome => halone ⟨hname, .inr hsome⟩
  rw [hnone] at hread
  exact ⟨huser, hpassword, (Prod.mk.inj (Except.ok.inj hread)).1.symm⟩

end Url

end PullDiagnostics
