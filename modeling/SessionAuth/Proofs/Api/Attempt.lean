import SessionAuth.Proofs.Api.Endpoints
import SessionAuth.Proofs.Api.Login
import SessionAuth.Proofs.Cookie.Characters
import SessionAuth.Proofs.Email

set_option autoImplicit false

/-! # How an attempt to log in ends

A request *brings* a login if its body is announced as JSON, is not too long, can be read, and the
login in it has the form of one (`Login.Brings`). A request that brings none is refused as invalid,
whatever the stores do; one whose credentials are refused is refused for them. In both cases the
world stays as it was. What is left are the requests that let somebody in, and their answer depends
on nothing but the cookie: either it can be written and hands out the session, or it cannot.
-/

namespace SessionAuth

/-! ## What a request brings -/

namespace Login

/-- The body of the request is a login, and its email, trimmed, and its password have the form that
is asked for. -/
structure Brings (r : Request) (login : LoginRequest) : Prop where
  announced : announcesJson r.headers = true
  bounded : r.body.length ≤ maxBody
  decoded : Json.readFirst LoginRequest.decode r.body = .ok login
  formed : Email.checkLogin (Text.trimmed login.email) login.password = .ok ()

variable {r : Request} {login : LoginRequest}

theorem readBody_eq_ok_iff :
    readBody r = .ok login ↔ announcesJson r.headers = true ∧ r.body.length ≤ maxBody ∧
      Json.readFirst LoginRequest.decode r.body = .ok login := by
  unfold readBody
  by_cases hjson : announcesJson r.headers = true
  · by_cases hlong : maxBody < r.body.length
    · simp [hjson, hlong, Nat.not_le.2 hlong]
    · cases hread : Json.readFirst LoginRequest.decode r.body with
      | ok found => simp [hjson, hlong, Except.mapError, Nat.not_lt.1 hlong]
      | error t => simp [hjson, hlong, Except.mapError]
  · simp [hjson]

/-- A body that is not accepted makes the request invalid. -/
theorem status_of_readBody_eq_error {f : Fault} (h : readBody r = .error f) : f.status = 400 := by
  unfold readBody at h
  split at h
  · cases h
    rfl
  · split at h
    · cases h
      rfl
    · cases hread : Json.readFirst LoginRequest.decode r.body with
      | ok found =>
          rw [hread] at h
          cases h
      | error t =>
          rw [hread] at h
          cases h
          rfl

/-- So does a login that does not have the form of one. -/
theorem status_of_checkLogin_eq_error {email password : String} {f : Fault}
    (h : Email.checkLogin email password = .error f) : f.status = 400 := by
  unfold Email.checkLogin at h
  split at h
  · cases h
    rfl
  · split at h
    · cases h
      rfl
    · split at h
      · cases h
      · cases h
        rfl

/-- What is read is accepted if it has the form of a login. -/
theorem accept_of_readBody (h : readBody r = .ok login) :
    accept r = (Email.checkLogin (Text.trimmed login.email) login.password).map fun _ =>
      { login with email := Text.trimmed login.email } := by
  rw [accept, h]
  simp only [bind, Except.bind, pure, Except.pure]
  cases Email.checkLogin (Text.trimmed login.email) login.password with
  | ok u => rfl
  | error f => rfl

/-- A request that brings a login is accepted, with the email trimmed. -/
theorem accept_of_brings (h : Brings r login) :
    accept r = .ok { login with email := Text.trimmed login.email } := by
  rw [accept_of_readBody (readBody_eq_ok_iff.2 ⟨h.announced, h.bounded, h.decoded⟩), h.formed]
  rfl

/-- A request that brings no login is invalid. -/
theorem accept_of_not_brings (h : ∀ login, ¬ Brings r login) :
    ∃ f, accept r = .error f ∧ f.status = 400 := by
  cases hread : readBody r with
  | error f =>
      refine ⟨f, ?_, status_of_readBody_eq_error hread⟩
      rw [accept, hread]
      rfl
  | ok login =>
      rw [accept_of_readBody hread]
      cases hcheck : Email.checkLogin (Text.trimmed login.email) login.password with
      | error f => exact ⟨f, rfl, status_of_checkLogin_eq_error hcheck⟩
      | ok u =>
          obtain ⟨hannounced, hbounded, hdecoded⟩ := readBody_eq_ok_iff.1 hread
          exact absurd ⟨hannounced, hbounded, hdecoded, hcheck⟩ (h login)

/-- A login that has the form of one has an email and a password. -/
theorem not_blank_of_brings (h : Brings r login) :
    ¬ (Text.trimmed login.email = "" ∨ login.password = "") :=
  Email.not_blank_of_checkLogin h.formed

end Login

/-! ## How it ends -/

namespace Service

variable {s : Service} {r : Request} {w w' : World} {login : LoginRequest}

/-- What a login does once the session is there: it writes the cookie and answers. -/
def handOut (s : Service) (granted : User × Session) : Action Fault Response := do
  let cookie ← Action.ofExcept (s.auth.cookie.issue granted.2 (← Action.now))
  return Login.welcome granted.1 cookie

theorem run_handOut (granted : User × Session) (w : World) :
    (s.handOut granted).run w =
      ((s.auth.cookie.issue granted.2 w.now).map (Login.welcome granted.1), w) := by
  rw [handOut, Action.run_bind_of_ok (Action.run_now w)]
  cases hissue : s.auth.cookie.issue granted.2 w.now with
  | ok cookie => exact Action.run_bind_of_ok (Action.run_ofExcept _ w) _
  | error f => exact Action.run_bind_of_error (Action.run_ofExcept _ w) _

theorem run_login_of_accept (h : Login.accept r = .ok login) (w : World) :
    (s.login r).run w =
      (s.authenticate login.email login.password (Login.client s.auth.trustForwardedFor r) >>=
        s.handOut).run w := by
  rw [Service.login, h]
  exact Action.run_bind_of_ok (Action.run_ofExcept _ w) _

/-- A request that brings no login is refused as invalid and changes nothing. -/
theorem run_login_of_not_brings (h : ∀ login, ¬ Login.Brings r login) (w : World) :
    ∃ f, (s.login r).run w = (.error f, w) ∧ f.status = 400 := by
  obtain ⟨f, haccept, hstatus⟩ := Login.accept_of_not_brings h
  refine ⟨f, ?_, hstatus⟩
  rw [login, haccept]
  exact Action.run_bind_of_error (Action.run_ofExcept _ w) _

/-- A request whose credentials are refused is refused for them and changes nothing. -/
theorem run_login_of_refusal (hw : w.faults .findByEmail = none) (h : Login.Brings r login)
    (hrefusal : s.Refusal w (Text.trimmed login.email) login.password) :
    (s.login r).run w = (.error .invalidCredentials, w) := by
  have htrimmed : s.Refusal w (Text.trimmed (Text.trimmed login.email)) login.password := by
    rwa [Text.trimmed_trimmed]
  have hrun := run_authenticate_of_refusal hw htrimmed (Login.client s.auth.trustForwardedFor r)
  rw [run_login_of_accept (Login.accept_of_brings h)]
  exact Action.run_bind_of_error hrun _

/-- A request whose credentials are admitted lets their user in, and whether the session is handed
out depends on whether its cookie can be written. -/
theorem run_login_of_admits (hw : w.Healthy) (h : Login.Brings r login) {u : User}
    (hadmits : s.Admits w (Text.trimmed login.email) login.password u) {expiry : Instant}
    (hexpiry : w.now.add? s.sessionTtl = some expiry)
    (hfree : w.sessions.get? w.ids.next.1 = none) :
    ∃ session, session = issued w u.id expiry (Login.client s.auth.trustForwardedFor r) ∧
      (s.login r).run w =
        ((s.auth.cookie.issue session w.now).map
          (Login.welcome { u with roles := w.users.rolesOf u.id }), issuing w session) := by
  have htrimmed : s.Admits w (Text.trimmed (Text.trimmed login.email)) login.password u := by
    rwa [Text.trimmed_trimmed]
  have hblank : ¬ (Text.trimmed (Text.trimmed login.email) = "" ∨ login.password = "") := by
    rw [Text.trimmed_trimmed]
    exact Login.not_blank_of_brings h
  have hrun := run_authenticate_of_admits hw hblank htrimmed hexpiry hfree
    (Login.client s.auth.trustForwardedFor r)
  refine ⟨_, rfl, ?_⟩
  rw [run_login_of_accept (Login.accept_of_brings h), Action.run_bind_of_ok hrun]
  exact run_handOut _ _

/-- **An attempt to log in fails without a trace or lets somebody in**, in whatever world. Who is
let in gets a session that is active and is issued to the client of the request, and whether it is
handed out depends on whether its cookie can be written. -/
theorem run_login_cases (s : Service) (r : Request) (w : World) :
    (∃ f w', (s.login r).run w = (.error f, w') ∧ w'.sessions = w.sessions) ∨
      ∃ user session w', LetsIn w w' user session ∧
        w.now.add? s.sessionTtl = some session.expiresAt ∧
        session =
          issued w user.id session.expiresAt (Login.client s.auth.trustForwardedFor r) ∧
        (s.login r).run w =
          ((s.auth.cookie.issue session w.now).map
            (Login.welcome { user with roles := w.users.rolesOf user.id }), w') := by
  cases haccept : Login.accept r with
  | error f =>
      refine Or.inl ⟨f, w, ?_, rfl⟩
      rw [login, haccept]
      exact Action.run_bind_of_error (Action.run_ofExcept _ w) _
  | ok login =>
      rw [run_login_of_accept haccept]
      rcases hrun : (s.authenticate login.email login.password
        (Login.client s.auth.trustForwardedFor r)).run w with ⟨f | ⟨user, session⟩, w'⟩
      · refine Or.inl ⟨f, w', Action.run_bind_of_error hrun _, ?_⟩
        have hkept := authenticate_atomic s login.email login.password
          (Login.client s.auth.trustForwardedFor r) w f (by rw [hrun])
        rwa [hrun] at hkept
      · obtain ⟨u, expiry, hlets, rfl, hexpiry, rfl⟩ := of_run_authenticate_eq_ok hrun
        refine Or.inr ⟨u, _, w', hlets, hexpiry, rfl, ?_⟩
        rw [Action.run_bind_of_ok hrun, ← hlets.unmoved]
        exact run_handOut _ w'

/-- A request to log in is always answered: by what the login says, or by its fault. -/
theorem run_respond_login (hmethod : r.method = "POST") (hpath : r.path = "/api/v1/auth/login")
    (w : World) :
    (s.respond r).run w =
      match (s.login r).run w with
      | (.ok response, w') => (.ok response, w')
      | (.error f, w') => (.ok (.ofFault f), w') := by
  rw [respond_login hmethod hpath, Endpoint.run_settle, Action.run_mapError]
  rcases (s.login r).run w with ⟨f | response, w'⟩
  · rfl
  · rfl

/-- The answer writes what the login writes. -/
theorem snd_run_respond_login (hmethod : r.method = "POST")
    (hpath : r.path = "/api/v1/auth/login") (w : World) :
    ((s.respond r).run w).2 = ((s.login r).run w).2 := by
  rw [run_respond_login hmethod hpath]
  rcases (s.login r).run w with ⟨f | response, w'⟩
  · rfl
  · rfl

theorem run_respond_login_of_ok (hmethod : r.method = "POST")
    (hpath : r.path = "/api/v1/auth/login") {response : Response}
    (h : (s.login r).run w = (.ok response, w')) :
    (s.respond r).run w = (.ok response, w') := by
  rw [run_respond_login hmethod hpath, h]

theorem run_respond_login_of_error (hmethod : r.method = "POST")
    (hpath : r.path = "/api/v1/auth/login") {f : Fault}
    (h : (s.login r).run w = (.error f, w')) :
    (s.respond r).run w = (.ok (.ofFault f), w') := by
  rw [run_respond_login hmethod hpath, h]

/-- A request that brings no login is answered as an invalid one. -/
theorem run_respond_of_not_brings (hmethod : r.method = "POST")
    (hpath : r.path = "/api/v1/auth/login") (h : ∀ login, ¬ Login.Brings r login) (w : World) :
    ∃ response, (s.respond r).run w = (.ok response, w) ∧ response.status = 400 := by
  obtain ⟨f, hrun, hstatus⟩ := run_login_of_not_brings h w
  exact ⟨.ofFault f, run_respond_login_of_error hmethod hpath hrun, hstatus⟩

/-- The answer to every request whose credentials are refused. -/
def refusalAnswer : Response := .ofFault .invalidCredentials

/-- A request whose credentials are refused gets this answer, and the world stays as it was. -/
theorem run_respond_of_refusal (hw : w.faults .findByEmail = none) (hmethod : r.method = "POST")
    (hpath : r.path = "/api/v1/auth/login") (hbrings : Login.Brings r login)
    (hrefusal : s.Refusal w (Text.trimmed login.email) login.password) :
    (s.respond r).run w = (.ok refusalAnswer, w) :=
  run_respond_login_of_error hmethod hpath (run_login_of_refusal hw hbrings hrefusal)

/-- The request of the small login brings the email and the password of the small world's user. -/
theorem lodgerLogin_brings : Login.Brings lodgerLogin ⟨"a@b.com", "secret"⟩ where
  announced := by decide
  bounded := by decide
  decoded := by decide +kernel
  formed := by decide

end Service

end SessionAuth
