import SessionAuth.Proofs.Account.Seeding
import SessionAuth.Proofs.Api.Attempt
import SessionAuth.Proofs.Configuration.Acceptance
import SessionAuth.Proofs.Json.RoundTrip
import SessionAuth.Proofs.Service.Event

set_option autoImplicit false

/-! # Logging in as the seeded administrator

The email and the password of an administrator pass through several hands. The configuration trims
both; seeding trims the email and digests the password; a login trims the email again, asks that it
be an address, and takes the password as it comes. So whoever logs in with the values of the two
variables has the right email, if that is an address, and the right password only if the blanks
around it do not matter to the digest (`Service.seeded_admin_logs_in`). If they do, as they do to
every digest worth its name, a password that is configured with a blank at one end keeps the
administrator out, and so does an email that is no address (`Service.seeded_admin_locked_out`).
-/

namespace SessionAuth

/-- The request posts a login as JSON, in a body that is not too long. -/
structure Login.Posts (r : Request) (login : LoginRequest) : Prop where
  method : r.method = "POST"
  path : r.path = "/api/v1/auth/login"
  announced : announcesJson r.headers = true
  bounded : r.body.length ≤ maxBody
  written : login.WrittenIn r.body

/-- A login with an address of bounded length and some password is brought by the request that posts
it. -/
theorem Login.Posts.brings {r : Request} {login : LoginRequest} (h : Posts r login)
    (haddress : Email.isAddress (Text.trim login.email.toList) = true)
    (hlength : (Text.trimmed login.email).length ≤ Email.maxLength)
    (hpassword : login.password ≠ "") : Brings r login where
  announced := h.announced
  bounded := h.bounded
  decoded := LoginRequest.readFirst_of_writtenIn h.written
  formed := by
    rw [← Text.toList_trimmed] at haddress
    exact Email.checkLogin_eq_ok_iff.2 ⟨hpassword, haddress, hlength⟩

namespace Service

variable {s : Service} {w : World}

/-- What a login is answered with that comes from the administrator under `id`. -/
def adminWelcome (id : Uuid) (email : String) : Json :=
  Envelope.toJson UserSummary.toJson ⟨200, "Login successful", some ⟨id, email, ["admin"]⟩⟩

/-- Whoever is admitted is answered with a summary that names the roles of the moment, if the cookie
may stand in a header. -/
theorem run_respond_of_admits {r : Request} {login : LoginRequest} (hhealthy : w.Healthy)
    (hmethod : r.method = "POST") (hpath : r.path = "/api/v1/auth/login")
    (hbrings : Login.Brings r login) {u : User}
    (hadmits : s.Admits w (Text.trimmed login.email) login.password u) {expiry : Instant}
    (hexpiry : w.now.add? s.sessionTtl = some expiry)
    (hfree : w.sessions.get? w.ids.next.1 = none) (hwritable : s.auth.cookie.Writable) :
    ∃ response w', (s.respond r).run w = (.ok response, w') ∧ response.status = 200 ∧
      response.body = (Envelope.toJson UserSummary.toJson ⟨200, "Login successful",
        some ⟨u.id, u.email, Role.names (w.users.rolesOf u.id)⟩⟩).text := by
  obtain ⟨session, rfl, hrun⟩ := run_login_of_admits hhealthy hbrings hadmits hexpiry hfree
  rw [CookieSettings.issue_of_writable hwritable] at hrun
  exact ⟨_, _, run_respond_login_of_ok hmethod hpath hrun, rfl, rfl⟩

/-- Once an administrator has been seeded under an email that was unknown, it is the password that
decides. -/
theorem run_respond_of_seeded {r : Request} {email password digest : String} {id : Uuid}
    (hunknown : w.users.findByEmail (Text.trimmed email) = none)
    (hnew : w.users.users.get? id = none) (hroles : w.users.rolesOf id = [])
    (hhealthy : w.Healthy) (hfree : w.sessions.get? w.ids.next.1 = none) {expiry : Instant}
    (hexpiry : w.now.add? s.sessionTtl = some expiry) (hwritable : s.auth.cookie.Writable)
    (hmethod : r.method = "POST") (hpath : r.path = "/api/v1/auth/login")
    (hbrings : Login.Brings r ⟨email, password⟩) (roleId : Uuid) (stamp : Instant) {w₁ : World}
    (hw₁ : w₁ = { w with
      users := w.users.withAdmin id roleId stamp (Text.trimmed email) digest }) :
    ∃ response w', (s.respond r).run w₁ = (.ok response, w') ∧
      (response.status = 200 ↔ s.verify digest password = true) ∧
      (response.status = 200 →
        response.body = (adminWelcome id (Text.trimmed email)).text) ∧
      (response.status ≠ 200 → response.status = 401 ∧ w' = w₁) := by
  -- seeding has changed nothing but the directory
  obtain ⟨hhealthy₁, hexpiry₁, hfree₁⟩ : w₁.Healthy ∧ w₁.now.add? s.sessionTtl = some expiry ∧
      w₁.sessions.get? w₁.ids.next.1 = none := by
    rw [hw₁]
    exact ⟨hhealthy, hexpiry, hfree⟩
  have husers : w₁.users = w.users.withAdmin id roleId stamp (Text.trimmed email) digest := by
    rw [hw₁]
  have hid : w.users.Unused id := ⟨hnew, hroles⟩
  cases hverified : s.verify digest password with
  | true =>
      have hadmits := admits_seeded hid hunknown husers hverified
      have hroles₁ : w₁.users.rolesOf id = [.admin roleId stamp] := by
        rw [husers, Directory.rolesOf_withAdmin hid]
      obtain ⟨response, w', hrun, hstatus, hbody⟩ := run_respond_of_admits hhealthy₁ hmethod hpath
        hbrings hadmits hexpiry₁ hfree₁ hwritable
      refine ⟨response, w', hrun, iff_of_true hstatus rfl, fun _ => ?_, fun h => absurd hstatus h⟩
      rw [hbody, show (User.fresh id (Text.trimmed email) digest stamp).id = id from rfl, hroles₁]
      rfl
  | false =>
      have hrefusal := refusal_seeded hid hunknown husers hverified
      have hrun := run_respond_of_refusal (hhealthy₁ _) hmethod hpath hbrings hrefusal
      have hstatus : refusalAnswer.status = 401 := rfl
      refine ⟨refusalAnswer, w₁, hrun, ?_, ?_, fun _ => ⟨hstatus, rfl⟩⟩
      · simp [hstatus]
      · simp [hstatus]

/-- **The seeded administrator logs in.** Let a configuration be accepted that names an
administrator. Then the administrator is seeded into an empty directory. Afterwards, let the values
of the two variables be posted as a login, the email being an address of bounded length. In a
healthy world, with a free identifier for the session, an expiry on the calendar and a cookie that
may stand in a header, the request is answered,

* with status 200 exactly if the password as it was posted fits the digest of the trimmed one, and
  so in any case if no blanks surround it,
* with status 200 and the administrator's role, or with status 401, and then nothing changes. -/
theorem seeded_admin_logs_in {vars : Config.Lookup} {c : Config} {a : SeedAdmin}
    (hconfig : Config.ofLookup vars = .ok c) (hseed : c.seedAdmin = some a)
    (hauth : s.auth = c.auth) {hash : String → String} (hverify : ∀ p, s.verify (hash p) p = true)
    (hwritable : c.auth.cookie.Writable) (hempty : w.users = .empty) (hhealthy : w.Healthy)
    (hfree : w.sessions.get? w.ids.next.1 = none) {expiry : Instant}
    (hexpiry : w.now.add? s.sessionTtl = some expiry) (id roleId : Uuid) (stamp : Instant) :
    ∃ email password user d, vars "SYNTHEMA_SEED_ADMIN_EMAIL" = some email ∧
      vars "SYNTHEMA_SEED_ADMIN_PASSWORD" = some password ∧
      w.users.seedAdmin hash id roleId stamp a.email a.password = .ok (user, d) ∧
      ∀ r, Login.Posts r ⟨email, password⟩ →
        Email.isAddress (Text.trim email.toList) = true →
        (Text.trimmed email).length ≤ Email.maxLength →
        ∃ response w', (s.respond r).run { w with users := d } = (.ok response, w') ∧
          (response.status = 200 ↔ s.verify (hash (Text.trimmed password)) password = true) ∧
          (Text.trimmed password = password → response.status = 200) ∧
          (response.status = 200 →
            response.body = (adminWelcome id (Text.trimmed email)).text) ∧
          (response.status ≠ 200 → response.status = 401 ∧ w' = { w with users := d }) := by
  obtain ⟨⟨email, hemail, haemail, hemail'⟩, password, hpassword, hapassword, hpassword'⟩ :=
    ((Config.describes_and_bounded_of_ofLookup hconfig).1.seedAdmin a).1 hseed
  have hunknown : w.users.findByEmail (Text.trimmed email) = none := by
    rw [hempty]
    rfl
  have hnew : w.users.users.get? id = none := by
    rw [hempty]
    rfl
  have hroles : w.users.rolesOf id = [] := by
    rw [hempty]
    rfl
  -- what was trimmed when it was configured is trimmed already
  have htwice : Text.trimmed a.email = Text.trimmed email := by
    rw [haemail, Text.trimmed_trimmed]
  have hseeded := Directory.seedAdmin_of_unknown (htwice ▸ haemail ▸ hemail') hpassword'
    (htwice ▸ hunknown) hash id roleId stamp
  rw [htwice, hapassword] at hseeded
  rw [hapassword]
  refine ⟨email, password, _, _, hemail, hpassword, hseeded, fun r hposts haddress hlength => ?_⟩
  have hpassword : password ≠ "" := fun hblank => by
    rw [hapassword, hblank] at hpassword'
    exact hpassword' rfl
  have hbrings := hposts.brings haddress hlength hpassword
  obtain ⟨response, w', hrun, hstatus, hbody, hrefused⟩ :=
    run_respond_of_seeded hunknown hnew hroles hhealthy hfree hexpiry (hauth ▸ hwritable)
      hposts.method hposts.path hbrings roleId stamp rfl
  refine ⟨response, w', hrun, hstatus, fun hself => hstatus.2 ?_, hbody, hrefused⟩
  rw [hself]
  exact hverify password

/-! ## Small administrators -/

/-- Nothing is configured but an administrator. -/
def naming (email password : String) : Config.Lookup := fun key =>
  if key = "SYNTHEMA_SEED_ADMIN_EMAIL" then some email
  else if key = "SYNTHEMA_SEED_ADMIN_PASSWORD" then some password
  else none

/-- Posts a body as JSON to where logins go. -/
def posting (body : List UInt8) : Request where
  method := "POST"
  target := "/api/v1/auth/login"
  headers := [⟨"Content-Type", Text.utf8 "application/json"⟩]
  body := body

theorem posts_posting {body : List UInt8} {login : LoginRequest} (hwritten : login.WrittenIn body)
    (h : body.length ≤ Login.maxBody) : Login.Posts (posting body) login := by
  have hpath : (posting body).path = "/api/v1/auth/login" := by
    show String.ofList (Request.pathOf "/api/v1/auth/login".toList) = "/api/v1/auth/login"
    decide
  have hannounced : Login.announcesJson (posting body).headers = true := by
    show Login.announcesJson [⟨"Content-Type", Text.utf8 "application/json"⟩] = true
    decide
  exact ⟨rfl, hpath, hannounced, h, hwritten⟩

/-- The administrator logs in with what has been configured. -/
def adminLogin (email password : String) : Request :=
  posting (Text.utf8 (LoginRequest.toJson ⟨email, password⟩).text)

theorem posts_adminLogin {email password : String}
    (h : (Text.utf8 (LoginRequest.toJson ⟨email, password⟩).text).length ≤ Login.maxBody) :
    Login.Posts (adminLogin email password) ⟨email, password⟩ :=
  posts_posting (LoginRequest.writtenIn_text ⟨email, password⟩) h

/-- An administrator who is configured, and seeded into the blank world, is answered with the status
when logging in with what has been configured. -/
def AnswersAdmin (email password : String) (status : Nat) : Prop :=
  ∃ a user d,
    Config.ofLookup (naming email password) = .ok { Config.unset with seedAdmin := some a } ∧
    World.blank.users.seedAdmin id (.ofNat 1) (.ofNat 2) .epoch a.email a.password = .ok (user, d) ∧
    Login.Posts (adminLogin email password) ⟨email, password⟩ ∧
    ((plain.respond (adminLogin email password)).run { World.blank with users := d }).1.toOption.map
      Response.status = some status

/-- An administrator with blanks around the email, but none around the password, logs in. -/
theorem seeded_admin_logs_in_small :
    Config.ofLookup (naming " admin@b.com\t" "secret") =
        .ok { Config.unset with seedAdmin := some ⟨"admin@b.com", "secret"⟩ } ∧
      plain.auth = Config.unset.auth ∧ (∀ p, plain.verify (id p) p = true) ∧
      Config.unset.auth.cookie.Writable ∧ World.blank.users = .empty ∧ World.blank.Healthy ∧
      World.blank.sessions.get? World.blank.ids.next.1 = none ∧
      (∃ expiry, World.blank.now.add? plain.sessionTtl = some expiry) ∧
      AnswersAdmin " admin@b.com\t" "secret" 200 := by
  have hconfig : Config.ofLookup (naming " admin@b.com\t" "secret") =
      .ok { Config.unset with seedAdmin := some ⟨"admin@b.com", "secret"⟩ } := by decide
  have hverify : ∀ p, plain.verify (id p) p = true := by simp [plain]
  have hhealthy : World.blank.Healthy := fun _ => rfl
  have hfree : World.blank.sessions.get? World.blank.ids.next.1 = none := by decide
  obtain ⟨expiry, hexpiry⟩ : ∃ expiry, World.blank.now.add? plain.sessionTtl = some expiry :=
    Option.isSome_iff_exists.1 (by decide)
  obtain ⟨email, password, user, d, hemail, hpassword, hseeded, hanswer⟩ :=
    seeded_admin_logs_in hconfig rfl rfl hverify (by decide) rfl hhealthy hfree hexpiry (.ofNat 1)
      (.ofNat 2) .epoch
  obtain rfl : email = " admin@b.com\t" := Option.some.inj (hemail.symm.trans (by decide))
  obtain rfl : password = "secret" := Option.some.inj (hpassword.symm.trans (by decide))
  have hposts : Login.Posts (adminLogin " admin@b.com\t" "secret") ⟨" admin@b.com\t", "secret"⟩ :=
    posts_adminLogin (by decide)
  obtain ⟨response, w', hrun, -, hself, -⟩ := hanswer _ hposts (by decide) (by decide)
  have hstatus : response.status = 200 := hself (by decide)
  refine ⟨hconfig, rfl, hverify, by decide, rfl, hhealthy, hfree, ⟨expiry, hexpiry⟩, _, user, d,
    hconfig, hseeded, hposts, ?_⟩
  rw [hrun]
  exact congrArg some hstatus

/-- With the same service an administrator whose password is configured with blanks around it is
refused, and one whose email is no address is not even looked up. -/
theorem seeded_admin_locked_out :
    plain.auth = Config.unset.auth ∧ (∀ p, plain.verify (id p) p = true) ∧
      Config.unset.auth.cookie.Writable ∧ World.blank.users = .empty ∧ World.blank.Healthy ∧
      World.blank.sessions.get? World.blank.ids.next.1 = none ∧
      (World.blank.now.add? plain.sessionTtl).isSome = true ∧
      AnswersAdmin "admin@b.com" " secret " 401 ∧ AnswersAdmin "admin" "secret" 400 := by
  refine ⟨rfl, by simp [plain], by decide, rfl, fun _ => rfl, by decide, by decide, ?_, ?_⟩
  · refine ⟨⟨"admin@b.com", "secret"⟩, _, _, by decide, rfl, posts_adminLogin (by decide), ?_⟩
    decide +kernel
  · refine ⟨⟨"admin", "secret"⟩, _, _, by decide, rfl, posts_adminLogin (by decide), ?_⟩
    decide +kernel

end Service

end SessionAuth
