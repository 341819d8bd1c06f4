import SessionAuth.Proofs.Api.Delivery
import SessionAuth.Proofs.Api.Outcome
import SessionAuth.Proofs.Session.Metadata

set_option autoImplicit false

/-! # Who is granted a session

An email and a password are granted a session exactly if neither is blank, they fit a user who may
log in, and the session would expire on the calendar. What is granted is the user with the roles of
the moment and the session as it is stored, and nothing else changes; whoever is granted nothing
leaves the world as it was: `Service.authenticate_grants`.

Sessions live for the span that is configured, or for seven days if that span is not positive
(`Service.sessionTtl`).
-/

namespace SessionAuth.Service

variable {s : Service} {w w' : World} {email password : String} {client : Metadata}

/-- Between two worlds `session` has been stored for `owner`, who is shown as `user`, and nothing
else has been: the session begins now, ends when sessions do, and is active. -/
structure Grants (s : Service) (client : Metadata) (w w' : World) (owner user : User)
    (session : Session) : Prop extends LetsIn w w' owner session where
  shown : user = { owner with roles := w.users.rolesOf owner.id }
  named : session.id = w.ids.next.1
  row : w'.sessions.get? session.id = some session
  rows : w'.sessions.rows = w.sessions.rows ++ [session]
  begins : session.createdAt = w.now
  expires : w.now.add? s.sessionTtl = some session.expiresAt
  lasts : session.createdAt < session.expiresAt
  userAgent : ∀ text ∈ session.userAgent, Metadata.KeptOf 512 client.userAgent text
  ipAddress : ∀ text ∈ session.ipAddress, Metadata.KeptOf 64 client.ipAddress text
  finds : (Action.findActiveSession session.id).run w' = (.ok (some session), w')

/-- Credentials that are admitted fail as the issue of a session does. -/
theorem run_authenticate_of_unissued (hhealthy : w.Healthy) {u : User}
    (hblank : ¬ (Text.trimmed email = "" ∨ password = ""))
    (hadmits : s.Admits w (Text.trimmed email) password u) {f : Fault}
    (hissue : (s.issueSession u.id client).run w = (.error f, w')) :
    (s.authenticate email password client).run w = (.error f, w') := by
  unfold authenticate
  dsimp only
  rw [if_neg hblank, Action.run_bind_of_ok (run_checkCredentials_of_admits (hhealthy _) hadmits),
    Action.run_bind_of_ok (Action.run_listRoles (hhealthy _) u.id)]
  exact Action.run_bind_of_error hissue _

/-- The fault of a session that would expire off the calendar. -/
def offCalendarFault (s : Service) : Fault :=
  .internal ("session ttl " ++ s.sessionTtl.text ++ " overflows the expiry timestamp")

/-- A session that would expire off the calendar leaves no trace; no identifier has been drawn. -/
theorem run_issueSession_of_off_calendar (hexpiry : w.now.add? s.sessionTtl = none) (userId : Uuid)
    (client : Metadata) :
    (s.issueSession userId client).run w = (.error s.offCalendarFault, w) := by
  rw [issueSession, Action.run_bind_of_ok (Action.run_now w)]
  simp only [hexpiry]
  exact Action.run_throw _ w

/-- Credentials that are admitted are granted a session that expires on the calendar. -/
theorem grants_of_admits (hhealthy : w.Healthy) {u : User}
    (hadmits : s.Admits w (Text.trimmed email) password u) {expiry : Instant}
    (hexpiry : w.now.add? s.sessionTtl = some expiry)
    (hfree : w.sessions.get? w.ids.next.1 = none) (client : Metadata) :
    s.Grants client w (issuing w (issued w u.id expiry client)) u
      { u with roles := w.users.rolesOf u.id } (issued w u.id expiry client) := by
  have hvisible := (Directory.email_of_findByEmail hadmits.found).2
  have hlets : LetsIn w (issuing w (issued w u.id expiry client)) u
      (issued w u.id expiry client) := {
    found := Table.get?_key_of_mem (Directory.mem_of_findByEmail hadmits.found)
    undeleted := by simpa [User.isDeleted] using hvisible
    active := hadmits.active
    owned := rfl
    unrevoked := rfl
    free := hfree
    stored := rfl
    unmoved := rfl
    untouched := rfl }
  have hhealthy' : (issuing w (issued w u.id expiry client)).Healthy := hhealthy
  exact {
    toLetsIn := hlets
    shown := rfl
    named := rfl
    row := hlets.get?_issued
    rows := Table.rows_put_of_get?_eq_none hfree
    begins := rfl
    expires := hexpiry
    lasts := Instant.lt_of_add? s.sessionTtl_pos hexpiry
    userAgent := fun text htext => Metadata.keptOf_of_clean (by decide) htext
    ipAddress := fun text htext => Metadata.keptOf_of_clean (by decide) htext
    finds := by rw [Action.run_findActiveSession (hhealthy' _), hlets.findActive_issued hexpiry] }

/-- Where a condition of being granted a session does not hold, the attempt leaves no trace. -/
theorem run_authenticate_of_not_granted (hhealthy : w.Healthy) (hunique : w.users.EmailsUnique)
    (hnot : ¬ (Text.trimmed email ≠ "" ∧ password ≠ "" ∧
      (∃ owner, s.Matches w ⟨email, password⟩ owner) ∧
        ∃ expiry, w.now.add? s.sessionTtl = some expiry)) (client : Metadata) :
    ∃ f, (s.authenticate email password client).run w = (.error f, w) := by
  by_cases hblank : Text.trimmed email = "" ∨ password = ""
  · exact ⟨_, run_authenticate_of_blank hblank client⟩
  · by_cases hmatches : ∃ owner, s.Matches w ⟨email, password⟩ owner
    · obtain ⟨owner, howner⟩ := hmatches
      have hadmits := (matches_iff_admits hunique).1 howner
      -- all that can be missing now is an expiry on the calendar
      cases hexpiry : w.now.add? s.sessionTtl with
      | none =>
          have hissue := run_issueSession_of_off_calendar hexpiry owner.id client
          exact ⟨_, run_authenticate_of_unissued hhealthy hblank hadmits hissue⟩
      | some expiry =>
          rw [not_or] at hblank
          exact absurd ⟨hblank.1, hblank.2, ⟨owner, howner⟩, expiry, hexpiry⟩ hnot
    · have hrefusal : s.Refusal w (Text.trimmed email) password :=
        refusal_iff.2 fun owner hadmits =>
          hmatches ⟨owner, (matches_iff_admits hunique).2 hadmits⟩
      exact ⟨_, run_authenticate_of_refusal (hhealthy _) hrefusal client⟩

/-- **Who is granted a session.** In a healthy world, let no two users share an email, deleted users
apart, and let the next identifier of a session be free. Then

* an email and a password are granted a session exactly if the trimmed email and the password are
  not empty, a user who is not deleted has exactly the trimmed email, may log in with the password
  and is switched on, and the present and the lifetime of sessions make an instant on the calendar,
* what is granted is this user and a session as `Grants` says,
* an attempt that fails leaves the world as it was. -/
theorem authenticate_grants (hhealthy : w.Healthy) (hunique : w.users.EmailsUnique)
    (hfree : w.sessions.get? w.ids.next.1 = none) (s : Service) (email password : String)
    (client : Metadata) :
    ((∃ granted w', (s.authenticate email password client).run w = (.ok granted, w')) ↔
      Text.trimmed email ≠ "" ∧ password ≠ "" ∧
        (∃ owner, s.Matches w ⟨email, password⟩ owner) ∧
          ∃ expiry, w.now.add? s.sessionTtl = some expiry) ∧
    (∀ user session w', (s.authenticate email password client).run w = (.ok (user, session), w') →
      ∃ owner, s.Matches w ⟨email, password⟩ owner ∧
        s.Grants client w w' owner user session) ∧
    ∀ f w', (s.authenticate email password client).run w = (.error f, w') → w' = w := by
  by_cases hall : Text.trimmed email ≠ "" ∧ password ≠ "" ∧
      (∃ owner, s.Matches w ⟨email, password⟩ owner) ∧
        ∃ expiry, w.now.add? s.sessionTtl = some expiry
  · obtain ⟨hemail, hpassword, ⟨owner, howner⟩, expiry, hexpiry⟩ := hall
    have hadmits := (matches_iff_admits hunique).1 howner
    have hrun := run_authenticate_of_admits hhealthy (not_or.2 ⟨hemail, hpassword⟩) hadmits
      hexpiry hfree client
    refine ⟨iff_of_true ⟨_, _, hrun⟩ ⟨hemail, hpassword, ⟨owner, howner⟩, expiry, hexpiry⟩, ?_, ?_⟩
    · intro user session w' h
      rw [hrun] at h
      cases h
      exact ⟨owner, howner, grants_of_admits hhealthy hadmits hexpiry hfree client⟩
    · intro f w' h
      rw [hrun] at h
      cases h
  · obtain ⟨f, hrun⟩ := run_authenticate_of_not_granted hhealthy hunique hall client
    refine ⟨iff_of_false ?_ hall, ?_, ?_⟩
    · rintro ⟨granted, w', h⟩
      rw [hrun] at h
      cases h
    · intro user session w' h
      rw [hrun] at h
      cases h
    · intro f' w' h
      rw [hrun] at h
      cases h
      rfl

/-- The user of the small world is granted a session, whatever blanks surround the email. -/
theorem authenticate_grants_small :
    World.small.Healthy ∧ World.small.users.EmailsUnique ∧
      World.small.sessions.get? World.small.ids.next.1 = none ∧
      ∃ user session w',
        (plain.authenticate " a@b.com\t" "secret" ⟨some " browser ", none⟩).run World.small =
          (.ok (user, session), w') ∧
        plain.Grants ⟨some " browser ", none⟩ World.small w' World.lodger user session := by
  have hunique : World.small.users.EmailsUnique := by
    unfold Directory.EmailsUnique
    decide
  have hfree : World.small.sessions.get? World.small.ids.next.1 = none := by decide
  obtain ⟨hiff, hgrants, -⟩ := authenticate_grants World.small_healthy hunique hfree plain
    " a@b.com\t" "secret" ⟨some " browser ", none⟩
  have hmatches : plain.Matches World.small ⟨" a@b.com\t", "secret"⟩ World.lodger :=
    ⟨by decide, by decide, by decide, by decide, by decide⟩
  have hexpiry : ∃ expiry, World.small.now.add? plain.sessionTtl = some expiry :=
    Option.isSome_iff_exists.1 (by decide)
  obtain ⟨⟨user, session⟩, w', hrun⟩ :=
    hiff.2 ⟨by decide, by decide, ⟨World.lodger, hmatches⟩, hexpiry⟩
  obtain ⟨owner, howner, hgranted⟩ := hgrants user session w' hrun
  have hone : ∀ u ∈ World.small.users.users.rows, u = World.lodger := by decide
  rw [hone owner howner.stored] at hgranted
  exact ⟨World.small_healthy, hunique, hfree, user, session, w', hrun, hgranted⟩

end SessionAuth.Service
