import SessionAuth.Credential.Verifier
import SessionAuth.Proofs.Service.Running
import SessionAuth.Proofs.Text.Trim
import SessionAuth.Service.Authentication

set_option autoImplicit false

/-! # What becomes of credentials

Credentials are *admitted* if the email finds a user, the password fits the digest of this user,
and the user is switched on (`Service.Admits`). All others are refused, for one of a few reasons
(`Service.Refusal`), and there is no third case: `Service.refusal_iff`. An attempt to log in with
credentials that are refused ends in the same fault whatever the reason, and it leaves the world as
it was (`Service.run_authenticate_of_refusal`); with credentials that are admitted it issues a
session (`Service.run_authenticate_of_admits`).

In a directory where no two users share an email, deleted users apart, the user that an email finds
is the one who has it (`Directory.findByEmail_eq_some_iff`).
-/

namespace SessionAuth

namespace Directory

variable {d : Directory} {email : String}

/-- No two users share an email, those who have been deleted apart. -/
def EmailsUnique (d : Directory) : Prop :=
  ∀ u ∈ d.users.rows, ∀ v ∈ d.users.rows, u.deletedAt = none → v.deletedAt = none →
    u.email = v.email → u = v

/-- An email finds nobody exactly if all who have it have been deleted. -/
theorem findByEmail_eq_none_iff :
    d.findByEmail email = none ↔ ∀ u ∈ d.users.rows, u.email = email → u.deletedAt ≠ none := by
  simp [findByEmail, User.isDeleted]

/-- An email finds the one user who has it and has not been deleted. -/
theorem findByEmail_eq_some_iff (hd : d.EmailsUnique) {u : User} :
    d.findByEmail email = some u ↔
      u ∈ d.users.rows ∧ u.email = email ∧ u.deletedAt = none := by
  constructor
  · intro h
    obtain ⟨hemail, hdeleted⟩ := email_of_findByEmail h
    exact ⟨mem_of_findByEmail h, hemail, by simpa [User.isDeleted] using hdeleted⟩
  · rintro ⟨hmem, hemail, hvisible⟩
    cases hfind : d.findByEmail email with
    | none => exact absurd hvisible (findByEmail_eq_none_iff.1 hfind u hmem hemail)
    | some v =>
        obtain ⟨hemail', hdeleted'⟩ := email_of_findByEmail hfind
        have hvisible' : v.deletedAt = none := by simpa [User.isDeleted] using hdeleted'
        rw [hd v (mem_of_findByEmail hfind) u hmem hvisible' hvisible (hemail'.trans hemail.symm)]

end Directory

namespace Credential

/-- **A digest that cannot be read is a digest of no password.** -/
theorem verify_of_unreadable {stored : String}
    (h : PasswordDigest.read? stored.toList = none) (password : String) :
    verify stored password = false := by
  rw [verify, h]

end Credential

namespace Service

variable {s : Service} {w : World} {email password : String}

/-! ## Admitted or refused -/

/-- The credentials are those of a user who may log in. -/
structure Admits (s : Service) (w : World) (email password : String) (u : User) : Prop where
  found : w.users.findByEmail email = some u
  verified : s.verify u.passwordDigest password = true
  active : u.isActive = true

/-- Why credentials are refused. -/
inductive Refusal (s : Service) (w : World) (email password : String) : Prop where
  /-- Nobody has the email. -/
  | unknown (h : ∀ u ∈ w.users.users.rows, u.email ≠ email)
  /-- All who have the email have been deleted. -/
  | deleted (h : ∀ u ∈ w.users.users.rows, u.email = email → u.deletedAt ≠ none)
  /-- The password does not fit the digest, whether or not the user is switched on. -/
  | mismatch (u : User) (found : w.users.findByEmail email = some u)
      (h : s.verify u.passwordDigest password = false)
  /-- The service checks digests as they are written by itself, and this one cannot be read. -/
  | unreadable (u : User) (found : w.users.findByEmail email = some u)
      (hverify : s.verify = Credential.verify)
      (h : PasswordDigest.read? u.passwordDigest.toList = none)
  /-- The user is switched off, whether or not the password fits. -/
  | inactive (u : User) (found : w.users.findByEmail email = some u) (h : u.isActive = false)

/-- **Credentials are refused exactly if they are not admitted.** -/
theorem refusal_iff : s.Refusal w email password ↔ ∀ u, ¬ s.Admits w email password u := by
  constructor
  · intro hrefusal u hadmits
    cases hrefusal with
    | unknown h =>
        have hmem := Directory.mem_of_findByEmail hadmits.found
        exact h u hmem (Directory.email_of_findByEmail hadmits.found).1
    | deleted h =>
        have hnobody := Directory.findByEmail_eq_none_iff.2 h
        rw [hadmits.found] at hnobody
        cases hnobody
    | mismatch v found h =>
        cases found.symm.trans hadmits.found
        rw [hadmits.verified] at h
        cases h
    | unreadable v found hverify h =>
        cases found.symm.trans hadmits.found
        have hmismatch := hadmits.verified
        rw [hverify, Credential.verify_of_unreadable h] at hmismatch
        cases hmismatch
    | inactive v found h =>
        cases found.symm.trans hadmits.found
        rw [hadmits.active] at h
        cases h
  · intro hnobody
    cases hfind : w.users.findByEmail email with
    | none => exact .deleted (Directory.findByEmail_eq_none_iff.1 hfind)
    | some u =>
        cases hverified : s.verify u.passwordDigest password with
        | false => exact .mismatch u hfind hverified
        | true =>
            cases hactive : u.isActive with
            | false => exact .inactive u hfind hactive
            | true => exact absurd ⟨hfind, hverified, hactive⟩ (hnobody u)

/-! ## Checking -/

theorem run_checkCredentials_of_admits (hw : w.faults .findByEmail = none) {u : User}
    (h : s.Admits w email password u) :
    (s.checkCredentials email password).run w = (.ok u, w) := by
  rw [checkCredentials, Action.run_bind_of_ok (Action.run_findByEmail hw email), h.found]
  simp only [h.verified, h.active, Bool.and_self, if_true]
  exact Action.run_pure u w

theorem run_checkCredentials_of_refusal (hw : w.faults .findByEmail = none)
    (h : s.Refusal w email password) :
    (s.checkCredentials email password).run w = (.error .invalidCredentials, w) := by
  rw [checkCredentials, Action.run_bind_of_ok (Action.run_findByEmail hw email)]
  cases hfind : w.users.findByEmail email with
  | none => exact Action.run_throw _ w
  | some u =>
      have hnot : ¬ (s.verify u.passwordDigest password && u.isActive) = true := by
        rw [Bool.and_eq_true]
        rintro ⟨hverified, hactive⟩
        exact refusal_iff.1 h u ⟨hfind, hverified, hactive⟩
      simp only [if_neg hnot]
      exact Action.run_throw _ w

theorem checkCredentials_onlyLooks (s : Service) (email password : String) :
    (s.checkCredentials email password).OnlyLooks := by
  refine .bind (.findByEmail email) fun found => ?_
  cases found with
  | none => exact .throw _
  | some u =>
      dsimp only
      split
      · exact .pure u
      · exact .throw _

/-! ## Issuing a session -/

/-- Sessions live for some time, whatever is configured. -/
theorem sessionTtl_pos (s : Service) : 0 < s.sessionTtl.nanos := by
  unfold sessionTtl
  split
  · assumption
  · decide

/-- The session that is issued to a user now. -/
def issued (w : World) (userId : Uuid) (expiry : Instant) (client : Metadata) : Session :=
  (Session.fresh w.ids.next.1 userId w.now expiry).withClient client.normalized

/-- The world after a session was issued: an identifier has been drawn and the row is stored. -/
def issuing (w : World) (session : Session) : World :=
  { w with ids := w.ids.next.2, sessions := w.sessions.put session }

/-- A session that cannot be issued leaves no row. -/
theorem issueSession_atomic (s : Service) (userId : Uuid) (client : Metadata) :
    (s.issueSession userId client).Atomic := by
  refine .bind (Action.OnlyLooks.now).keepsLedger fun now => ?_
  cases now.add? s.sessionTtl with
  | none => exact .of_keepsLedger (Action.OnlyLooks.throw _).keepsLedger
  | some expiry =>
      refine .bind .freshId fun id => ?_
      exact (Action.Atomic.createSession _).mapError Fault.toInternal

theorem run_issueSession_of_free (hw : w.faults .createSession = none) {expiry : Instant}
    (hexpiry : w.now.add? s.sessionTtl = some expiry)
    (hfree : w.sessions.get? w.ids.next.1 = none) (userId : Uuid) (client : Metadata) :
    (s.issueSession userId client).run w =
      (.ok (issued w userId expiry client), issuing w (issued w userId expiry client)) := by
  rw [issueSession, Action.run_bind_of_ok (Action.run_now w)]
  simp only [hexpiry]
  rw [Action.run_bind_of_ok (Action.run_freshId w)]
  -- the row is stored as it was made: its stamp of creation is the present already
  have hcreate : w.sessions.create (issued w userId expiry client) w.now =
      .ok (issued w userId expiry client, w.sessions.put (issued w userId expiry client)) :=
    Ledger.create_of_get?_eq_none (s := issued w userId expiry client) hfree w.now
  have hrun : (Action.createSession (issued w userId expiry client)).run
      { w with ids := w.ids.next.2 } =
        (.ok (issued w userId expiry client), issuing w (issued w userId expiry client)) := by
    refine (World.unlessFaulty_of_none (w := { w with ids := w.ids.next.2 }) hw _).trans ?_
    simp only [hcreate]
    rfl
  show (((Action.createSession (issued w userId expiry client)).mapError Fault.toInternal).run
    { w with ids := w.ids.next.2 }) = _
  rw [Action.run_mapError, hrun]
  rfl

/-! ## Logging in -/

/-- **Who cannot be authenticated leaves no session.** -/
theorem authenticate_atomic (s : Service) (email password : String) (client : Metadata) :
    (s.authenticate email password client).Atomic := by
  unfold authenticate
  dsimp only
  by_cases hblank : Text.trimmed email = "" ∨ password = ""
  · rw [if_pos hblank]
    exact .of_keepsLedger (Action.OnlyLooks.throw _).keepsLedger
  · rw [if_neg hblank]
    refine .bind (s.checkCredentials_onlyLooks _ _).keepsLedger fun user => ?_
    refine .bind (Action.OnlyLooks.listRoles user.id).keepsLedger fun roles => ?_
    exact (s.issueSession_atomic user.id client).bind_pure fun session =>
      ({ user with roles }, session)

theorem run_authenticate_of_blank (h : Text.trimmed email = "" ∨ password = "")
    (client : Metadata) :
    (s.authenticate email password client).run w = (.error .invalidCredentials, w) := by
  unfold authenticate
  dsimp only
  rw [if_pos h]
  exact Action.run_throw _ w

/-- **Refused credentials end in the same fault whatever the reason**, and leave no trace. -/
theorem run_authenticate_of_refusal (hw : w.faults .findByEmail = none)
    (h : s.Refusal w (Text.trimmed email) password) (client : Metadata) :
    (s.authenticate email password client).run w = (.error .invalidCredentials, w) := by
  by_cases hblank : Text.trimmed email = "" ∨ password = ""
  · exact run_authenticate_of_blank hblank client
  · unfold authenticate
    dsimp only
    rw [if_neg hblank]
    exact Action.run_bind_of_error (run_checkCredentials_of_refusal hw h) _

/-- **Admitted credentials get a session**, if the stores do not fail, the session expires on the
calendar and its identifier is free. -/
theorem run_authenticate_of_admits (hw : w.Healthy) {u : User}
    (hblank : ¬ (Text.trimmed email = "" ∨ password = ""))
    (h : s.Admits w (Text.trimmed email) password u) {expiry : Instant}
    (hexpiry : w.now.add? s.sessionTtl = some expiry)
    (hfree : w.sessions.get? w.ids.next.1 = none) (client : Metadata) :
    (s.authenticate email password client).run w =
      (.ok ({ u with roles := w.users.rolesOf u.id }, issued w u.id expiry client),
        issuing w (issued w u.id expiry client)) := by
  unfold authenticate
  dsimp only
  rw [if_neg hblank, Action.run_bind_of_ok (run_checkCredentials_of_admits (hw _) h),
    Action.run_bind_of_ok (Action.run_listRoles (hw _) u.id),
    Action.run_bind_of_ok (run_issueSession_of_free (hw _) hexpiry hfree u.id client)]
  exact Action.run_pure _ _

end Service

end SessionAuth
