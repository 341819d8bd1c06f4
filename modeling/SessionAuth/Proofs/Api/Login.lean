import SessionAuth.Api.Login
import SessionAuth.Proofs.Service.Credentials

set_option autoImplicit false

/-! # What a successful login leaves behind

A login that succeeds, in whatever world, has let in a user who is stored, active and not deleted.
It has stored one new session for this user, which nobody has revoked, and touched nothing else
of the stores (`Service.LetsIn`). Its answer hands out this session and shows this user
(`Service.of_run_login_eq_ok`).
-/

namespace SessionAuth.Service

/-- Between two worlds a user was let in with a new session. -/
structure LetsIn (w w' : World) (user : User) (session : Session) : Prop where
  found : w.users.users.get? user.id = some user
  undeleted : user.deletedAt = none
  active : user.isActive = true
  owned : session.userId = user.id
  unrevoked : session.revokedAt = none
  free : w.sessions.get? session.id = none
  stored : w'.sessions = w.sessions.put session
  unmoved : w'.now = w.now
  untouched : w'.users = w.users

variable {s : Service} {w w' : World}

/-- What is new is stored. -/
theorem LetsIn.get?_issued {user : User} {session : Session}
    (hlets : LetsIn w w' user session) :
    w'.sessions.get? session.id = some session := by
  rw [hlets.stored]
  exact Table.get?_put_self w.sessions session

/-- Nothing else is new. -/
theorem LetsIn.eq_of_new {user : User} {session row : Session} {id : Uuid}
    (hlets : LetsIn w w' user session) (hrow : w'.sessions.get? id = some row)
    (hnew : w.sessions.get? id = none) : row = session := by
  by_cases hid : session.id = id
  · rw [← hid, hlets.get?_issued] at hrow
    exact (Option.some.inj hrow).symm
  · rw [hlets.stored, Table.get?_put_of_ne _ hid, hnew] at hrow
    cases hrow

/-- The credentials fit only an active user with the email. -/
theorem of_run_checkCredentials_eq_ok {email password : String} {user : User}
    (h : (s.checkCredentials email password).run w = (.ok user, w')) :
    w.users.findByEmail email = some user ∧ user.isActive = true ∧ w' = w := by
  obtain ⟨found, v, hfind, hrest⟩ := Action.of_run_bind_eq_ok h
  obtain ⟨-, rfl, rfl⟩ := Action.of_run_findByEmail_eq_ok hfind
  cases hu : v.users.findByEmail email with
  | none =>
      rw [hu] at hrest
      cases hrest
  | some u =>
      rw [hu] at hrest
      dsimp only at hrest
      by_cases hc : (s.verify u.passwordDigest password && u.isActive) = true
      · rw [if_pos hc] at hrest
        cases hrest
        exact ⟨rfl, (Bool.and_eq_true _ _ ▸ hc).2, rfl⟩
      · rw [if_neg hc] at hrest
        cases hrest

/-- A session is issued under the next identifier, which was free, for as long as sessions live. -/
theorem of_run_issueSession_eq_ok {userId : Uuid} {client : Metadata} {session : Session}
    (h : (s.issueSession userId client).run w = (.ok session, w')) :
    ∃ expiry, w.now.add? s.sessionTtl = some expiry ∧
      session = issued w userId expiry client ∧ w.sessions.get? session.id = none ∧
        w'.sessions = w.sessions.put session := by
  obtain ⟨now, v, hnow, hrest⟩ := Action.of_run_bind_eq_ok h
  cases hnow
  cases hexpiry : w.now.add? s.sessionTtl with
  | none =>
      rw [hexpiry] at hrest
      cases hrest
  | some expiry =>
      rw [hexpiry] at hrest
      -- the row is stored as it was made: its stamp of creation is the present already
      obtain ⟨id, v, hid, hcreate⟩ := Action.of_run_bind_eq_ok hrest
      cases hid
      obtain ⟨-, l, hl, rfl⟩ :=
        Action.of_run_createSession_eq_ok (Action.of_run_mapError_eq_ok hcreate)
      obtain ⟨hfree, rfl, rfl⟩ := Ledger.of_create_eq_ok hl
      exact ⟨expiry, rfl, rfl, hfree, rfl⟩

/-- Whoever is authenticated is let in with a session of the client, and gets the roles of the
moment. -/
theorem of_run_authenticate_eq_ok {email password : String} {client : Metadata} {user : User}
    {session : Session}
    (h : (s.authenticate email password client).run w = (.ok (user, session), w')) :
    ∃ u expiry, LetsIn w w' u session ∧ user = { u with roles := w.users.rolesOf u.id } ∧
      w.now.add? s.sessionTtl = some expiry ∧ session = issued w u.id expiry client := by
  -- no run touches the users or the clock
  have hframe := Program.frame_run (ExceptT.run (s.authenticate email password client)) w
  rw [show Program.run (ExceptT.run (s.authenticate email password client)) w = _ from h] at hframe
  unfold authenticate at h
  dsimp only at h
  by_cases hblank : Text.trimmed email = "" ∨ password = ""
  · rw [if_pos hblank] at h
    cases h
  · rw [if_neg hblank] at h
    obtain ⟨u, v₁, hcheck, hrest⟩ := Action.of_run_bind_eq_ok h
    obtain ⟨hfind, hactive, rfl⟩ := of_run_checkCredentials_eq_ok hcheck
    obtain ⟨roles, v₂, hroles, hrest⟩ := Action.of_run_bind_eq_ok hrest
    obtain ⟨-, rfl, rfl⟩ := Action.of_run_listRoles_eq_ok hroles
    obtain ⟨new, v₃, hissue, hlast⟩ := Action.of_run_bind_eq_ok hrest
    cases hlast
    obtain ⟨expiry, hexpiry, rfl, hfree, hstored⟩ := of_run_issueSession_eq_ok hissue
    have hdeleted : u.isDeleted = false := (Directory.email_of_findByEmail hfind).2
    refine ⟨u, expiry, ?_, rfl, hexpiry, rfl⟩
    exact {
      found := Table.get?_key_of_mem (Directory.mem_of_findByEmail hfind)
      undeleted := by simpa [User.isDeleted] using hdeleted
      active := hactive
      owned := rfl
      unrevoked := rfl
      free := hfree
      stored := hstored
      unmoved := hframe.2.1
      untouched := hframe.1 }

/-- **A login that succeeds** lets a user in; its answer hands out the new session and shows the
user with the roles of the moment. -/
theorem of_run_login_eq_ok {r : Request} {response : Response}
    (h : (s.login r).run w = (.ok response, w')) :
    ∃ user session cookie, LetsIn w w' user session ∧
      s.auth.cookie.issue session w.now = .ok cookie ∧
      response = Login.welcome { user with roles := w.users.rolesOf user.id } cookie := by
  obtain ⟨login, v₁, haccept, hrest⟩ := Action.of_run_bind_eq_ok h
  obtain ⟨-, rfl⟩ := Prod.mk.inj haccept
  obtain ⟨⟨user, session⟩, v₂, hauthenticate, hrest⟩ := Action.of_run_bind_eq_ok hrest
  obtain ⟨u, expiry, hlets, rfl, -⟩ := of_run_authenticate_eq_ok hauthenticate
  obtain ⟨now, v₃, hnow, hrest⟩ := Action.of_run_bind_eq_ok hrest
  cases hnow
  obtain ⟨cookie, v₄, hcookie, hlast⟩ := Action.of_run_bind_eq_ok hrest
  cases hlast
  obtain ⟨hissue, rfl⟩ := Prod.mk.inj hcookie
  exact ⟨u, session, cookie, hlets, hlets.unmoved ▸ hissue, rfl⟩

/-! ## A small login -/

/-- A service with the default settings that stores passwords as they are. -/
def plain : Service := ⟨{}, fun digest password => digest == password⟩

/-- The user of the small world logs in. -/
def lodgerLogin : Request where
  method := "POST"
  target := "/api/v1/auth/login"
  headers := [⟨"Content-Type", Text.utf8 "application/json"⟩]
  body := Text.utf8 "\x7b\"email\": \"a@b.com\", \"password\": \"secret\"\x7d"

end SessionAuth.Service
