import SessionAuth.Proofs.Api.Attempt
import SessionAuth.Proofs.Configuration
import SessionAuth.Proofs.Service.Event
import SessionAuth.Proofs.Time.Elapsed

set_option autoImplicit false

/-! # Sessions that nobody gets

A login stores the session first and writes its cookie afterwards. Everything that can fail before
the session is stored leaves no trace. What can fail afterwards is the cookie alone, and it does so
if its name or its domain may not stand in a header, which no configuration is refused for. Then
whoever logs in is answered with an internal fault, and the session stays behind, active and known
to nobody: `Service.failed_login_leaves`.
-/

namespace SessionAuth.Service

variable {s : Service} {r : Request} {w w' : World}

/-- A session has been stored and is active, and the answer, which is that to an internal fault,
does not hand it out. -/
structure Undelivered (w w' : World) (user : User) (session : Session) (response : Response) :
    Prop where
  lets : LetsIn w w' user session
  active : w'.sessions.findActive session.id w'.now = some session
  status : response.status = 500
  cookie : response.getAll "set-cookie" = []

/-- A new session is active. -/
theorem LetsIn.findActive_issued {user : User} {session : Session}
    (hlets : LetsIn w w' user session)
    (hexpiry : w.now.add? s.sessionTtl = some session.expiresAt) :
    w'.sessions.findActive session.id w'.now = some session := by
  have hlater : w'.now < session.expiresAt := by
    rw [hlets.unmoved]
    exact Instant.lt_of_add? s.sessionTtl_pos hexpiry
  exact Ledger.findActive_eq_some_iff.2 ⟨hlets.get?_issued, hlets.unrevoked, hlater⟩

/-- If the cookie cannot be written, a login leaves the ledger as it is or leaves a session behind,
and it fails in both cases. -/
theorem run_respond_cases_of_not_writable (hcookie : ¬ s.auth.cookie.Writable)
    (hmethod : r.method = "POST") (hpath : r.path = "/api/v1/auth/login") (w : World) :
    ∃ response w', (s.respond r).run w = (.ok response, w') ∧ response.status ≠ 200 ∧
      (w'.sessions = w.sessions ∨ ∃ user session, Undelivered w w' user session response) := by
  rcases run_login_cases s r w with
    ⟨f, w', hrun, hkept⟩ | ⟨user, session, w', hlets, hexpiry, -, hrun⟩
  · exact ⟨.ofFault f, w', run_respond_login_of_error hmethod hpath hrun,
      Response.status_ofFault_ne_ok f, Or.inl hkept⟩
  · -- the session is stored by the time its cookie turns out not to be writable
    rw [CookieSettings.issue_of_not_writable hcookie] at hrun
    have hundelivered : Undelivered w w' user session (.ofFault
        (.internal "invalid session cookie header: failed to parse header value")) :=
      ⟨hlets, hlets.findActive_issued hexpiry, rfl, by decide⟩
    exact ⟨_, w', run_respond_login_of_error hmethod hpath hrun,
      Response.status_ofFault_ne_ok _, Or.inr ⟨user, session, hundelivered⟩⟩

/-- If the cookie can be written, a login that fails leaves the ledger as it is. -/
theorem run_respond_cases_of_writable (hcookie : s.auth.cookie.Writable)
    (hmethod : r.method = "POST") (hpath : r.path = "/api/v1/auth/login") (w : World) :
    ∃ response w', (s.respond r).run w = (.ok response, w') ∧
      (response.status ≠ 200 → w'.sessions = w.sessions) := by
  rcases run_login_cases s r w with ⟨f, w', hrun, hkept⟩ | ⟨user, session, w', -, -, -, hrun⟩
  · exact ⟨.ofFault f, w', run_respond_login_of_error hmethod hpath hrun, fun _ => hkept⟩
  · rw [CookieSettings.issue_of_writable hcookie] at hrun
    exact ⟨_, w', run_respond_login_of_ok hmethod hpath hrun, fun hnot => absurd rfl hnot⟩

/-- Who is admitted while nothing fails changes the ledger. -/
theorem sessions_ne_of_admits (hw : w.Healthy) {login : LoginRequest} (h : Login.Brings r login)
    {user : User} (hadmits : s.Admits w (Text.trimmed login.email) login.password user)
    {expiry : Instant} (hexpiry : w.now.add? s.sessionTtl = some expiry)
    (hfree : w.sessions.get? w.ids.next.1 = none) :
    ((s.login r).run w).2.sessions ≠ w.sessions := by
  obtain ⟨session, rfl, hrun⟩ := run_login_of_admits hw h hadmits hexpiry hfree
  intro hkept
  rw [hrun] at hkept
  -- the identifier of the new session was free before
  have hstored := Table.get?_put_self w.sessions
    (issued w user.id expiry (Login.client s.auth.trustForwardedFor r))
  rw [show Table.put w.sessions _ = w.sessions from hkept] at hstored
  exact absurd (hfree.symm.trans hstored) (by simp)

/-- **What a failed login leaves.** Let a service have a configuration that has been accepted, and
let the stores fail however they do. Then a request to log in is answered, the users stay as they
are, and

* if the values of the variables for the name and the domain of the cookie may stand in a header,
  a login that fails leaves the ledger as it is,
* otherwise every login fails, and it leaves the ledger as it is or leaves a session behind that is
  active and has not been handed out. It does the latter whenever the credentials are admitted and
  nothing else stands in the way. -/
theorem failed_login_leaves {vars : Config.Lookup} {c : Config}
    (hconfig : Config.ofLookup vars = .ok c) (hauth : s.auth = c.auth) (hmethod : r.method = "POST")
    (hpath : r.path = "/api/v1/auth/login") (w : World) :
    ∃ response w', (s.respond r).run w = (.ok response, w') ∧ w'.users = w.users ∧
      (Config.CookieWritable vars c.environment → response.status ≠ 200 →
        w'.sessions = w.sessions) ∧
      (¬ Config.CookieWritable vars c.environment → response.status ≠ 200 ∧
        (w'.sessions = w.sessions ∨
          ∃ user session, Undelivered w w' user session response) ∧
        ∀ login user expiry, w.Healthy → Login.Brings r login →
          s.Admits w (Text.trimmed login.email) login.password user →
          w.now.add? s.sessionTtl = some expiry → w.sessions.get? w.ids.next.1 = none →
          ∃ user session, Undelivered w w' user session response) := by
  have hcookie : s.auth.cookie.Writable ↔ Config.CookieWritable vars c.environment := by
    rw [hauth]
    exact Config.writable_cookie_iff hconfig
  have husers : ((s.respond r).run w).2.users = w.users :=
    (Program.frame_run (ExceptT.run (s.respond r)) w).1
  by_cases hwritable : s.auth.cookie.Writable
  · obtain ⟨response, w', hrun, hfailed⟩ :=
      run_respond_cases_of_writable hwritable hmethod hpath w
    rw [hrun] at husers
    exact ⟨response, w', hrun, husers, fun _ => hfailed,
      fun hnot => absurd (hcookie.1 hwritable) hnot⟩
  · obtain ⟨response, w', hrun, hstatus, hcases⟩ :=
      run_respond_cases_of_not_writable hwritable hmethod hpath w
    rw [hrun] at husers
    refine ⟨response, w', hrun, husers, fun hyes => absurd (hcookie.2 hyes) hwritable,
      fun _ => ⟨hstatus, hcases, ?_⟩⟩
    intro login user expiry hhealthy hlogin hadmits hexpiry hfree
    have hchanged := sessions_ne_of_admits hhealthy hlogin hadmits hexpiry hfree
    rw [← snd_run_respond_login hmethod hpath, hrun] at hchanged
    exact hcases.resolve_left hchanged

/-- The small world with a ledger that takes no new session. -/
def sealedWorld : World := World.small.after <| .setFaults fun k =>
  if k = .createSession then some (.database "read-only") else none

/-- With no variable set and a ledger that cannot be written, the user of the small world is not let
in, and the ledger stays as it is. -/
theorem failed_login_leaves_small :
    Config.ofLookup (fun _ => none) = .ok .unset ∧ plain.auth = Config.unset.auth ∧
      lodgerLogin.method = "POST" ∧ lodgerLogin.path = "/api/v1/auth/login" ∧
      ∃ response w', (plain.respond lodgerLogin).run sealedWorld = (.ok response, w') ∧
        response.status ≠ 200 ∧ w'.sessions = sealedWorld.sessions := by
  have hconfig : Config.ofLookup (fun _ => none) = .ok .unset := by decide
  have hpath : lodgerLogin.path = "/api/v1/auth/login" := by decide
  have hcookie : Config.CookieWritable (fun _ => none) Config.unset.environment :=
    ⟨fun _ hname => (by cases hname), fun _ _ hdomain => (by cases hdomain)⟩
  have hanswer : ((plain.respond lodgerLogin).run sealedWorld).1.toOption.map Response.status =
      some 500 := by
    decide +kernel
  obtain ⟨response, w', hrun, -, hkept, -⟩ :=
    failed_login_leaves (s := plain) (r := lodgerLogin) hconfig rfl rfl hpath sealedWorld
  have hstatus : response.status ≠ 200 := by
    rw [hrun] at hanswer
    rw [Option.some.inj hanswer]
    decide
  exact ⟨hconfig, rfl, rfl, hpath, response, w', hrun, hstatus, hkept hcookie hstatus⟩

/-- A name for the cookie with a control character in it. -/
def misnaming : Config.Lookup := fun key =>
  if key = "SYNTHEMA_AUTH_COOKIE_NAME" then some "a\x01b" else none

/-- The configuration with this name is accepted. The login of the user of the small world is
answered with an internal fault and no cookie, and one more session is stored and active. -/
theorem undelivered_small :
    ∃ c, Config.ofLookup misnaming = .ok c ∧
      ((((⟨c.auth, plain.verify⟩ : Service).respond lodgerLogin).run World.small).1.toOption.map
        fun response => (response.status, response.getAll "set-cookie")) = some (500, []) ∧
      (((⟨c.auth, plain.verify⟩ : Service).respond lodgerLogin).run World.small).2.sessions.size =
        World.small.sessions.size + 1 ∧
      ((((⟨c.auth, plain.verify⟩ : Service).respond lodgerLogin).run World.small).2.sessions.findActive
        World.small.ids.next.1 World.small.now).isSome = true := by
  refine ⟨{ Config.unset with auth := { cookie := { name := "a\x01b" } } }, by decide, ?_⟩
  decide +kernel

end SessionAuth.Service
