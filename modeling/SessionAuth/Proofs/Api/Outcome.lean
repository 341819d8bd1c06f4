import SessionAuth.Proofs.Account.RoleOrder
import SessionAuth.Proofs.Api.Attempt
import SessionAuth.Proofs.Service.Event
import SessionAuth.Proofs.Time.Elapsed

set_option autoImplicit false

/-! # The outcome of a login

While the stores do their work, a request to log in is invalid, or it is refused, or it succeeds,
and it is the request and the users that decide which: `Service.login_outcome`. A success adds one
session and hands it out (`Service.HandsOut`); the other two leave everything as it was.

The cookie says for how many seconds it is good. These are the seconds that remain until the
session expires, as measured between two readings of the clock, and a leap second can lie between
the two without being measured.
-/

namespace SessionAuth.Service

variable {s : Service} {r : Request} {w : World} {login : LoginRequest}

/-- A user who is not deleted has the email of the login and may log in with its password. -/
structure Matches (s : Service) (w : World) (login : LoginRequest) (user : User) : Prop where
  stored : user ∈ w.users.users.rows
  addressed : user.email = Text.trimmed login.email
  visible : user.deletedAt = none
  verified : s.verify user.passwordDigest login.password = true
  active : user.isActive = true

/-- Where no two users share an email, to match a login is to be admitted by it. -/
theorem matches_iff_admits (hunique : w.users.EmailsUnique) {user : User} :
    s.Matches w login user ↔
      s.Admits w (Text.trimmed login.email) login.password user := by
  constructor
  · rintro ⟨hstored, haddressed, hvisible, hverified, hactive⟩
    have hfound := (Directory.findByEmail_eq_some_iff hunique).2 ⟨hstored, haddressed, hvisible⟩
    exact ⟨hfound, hverified, hactive⟩
  · rintro ⟨hfound, hverified, hactive⟩
    obtain ⟨hstored, haddressed, hvisible⟩ :=
      (Directory.findByEmail_eq_some_iff hunique).1 hfound
    exact ⟨hstored, haddressed, hvisible, hverified, hactive⟩

/-- Between two worlds `session` has been stored for `user`, and nothing else has been; the answer
hands it out and shows the user. -/
structure HandsOut (s : Service) (w w' : World) (user : User) (session : Session)
    (response : Response) : Prop where
  users : w'.users = w.users
  free : w.sessions.get? session.id = none
  rows : w'.sessions.rows = w.sessions.rows ++ [session]
  owned : session.userId = user.id
  unrevoked : session.revokedAt = none
  expires : w.now.add? s.sessionTtl = some session.expiresAt
  cookie : ∃ (seconds : Int) (rest : String),
    response.getAll "set-cookie" = [s.auth.cookie.name ++ "=" ++ session.id.text ++
      "; Path=/; Expires=" ++ session.expiresAt.httpDate ++ "; Max-Age=" ++
      Text.integerText seconds ++ "; HttpOnly" ++ rest] ∧
    (seconds = s.sessionTtl.seconds ∨
      w.now.IsLeap ∧ seconds + 1 = s.sessionTtl.seconds)
  body : ∃ roles : List String,
    response.body = (Envelope.toJson UserSummary.toJson
      ⟨200, "Login successful", some ⟨user.id, user.email, roles⟩⟩).text ∧
    roles.Pairwise (· < ·) ∧
    ∀ n, n ∈ roles ↔ n ≠ "" ∧ ∃ role ∈ w.users.rolesOf user.id, role.name = n

/-- A session that is issued and written into a cookie is handed out. -/
theorem handsOut_welcome (hreach : w.Reachable) {user : User} {expiry : Instant}
    (hexpiry : w.now.add? s.sessionTtl = some expiry)
    (hfree : w.sessions.get? w.ids.next.1 = none) {client : Metadata} {cookie : String}
    (hissue : s.auth.cookie.issue (issued w user.id expiry client) w.now = .ok cookie) :
    s.HandsOut w (issuing w (issued w user.id expiry client)) user
      (issued w user.id expiry client)
      (Login.welcome { user with roles := w.users.rolesOf user.id } cookie) where
  users := rfl
  free := hfree
  rows := Table.rows_put_of_get?_eq_none hfree
  owned := rfl
  unrevoked := rfl
  expires := hexpiry
  cookie := by
    obtain ⟨rest, hcookie⟩ := CookieSettings.exists_of_issue hissue
    -- the cookie is written at the moment from which the lifetime of the session is counted
    refine ⟨CookieSettings.maxAge (issued w user.id expiry client) w.now, rest, ?_,
      Instant.seconds_since_of_add? s.sessionTtl_pos hexpiry⟩
    rw [← hcookie]
    rfl
  body := by
    have hasc := Role.names_pairwise_lt (hreach.rolesAscend user.id)
    exact ⟨Role.names (w.users.rolesOf user.id), rfl, hasc, fun n => Role.mem_names⟩

/-- A request with a login that matches a user is answered with a session that is handed out. -/
theorem run_respond_of_matches (hreach : w.Reachable) (hhealthy : w.Healthy)
    (hunique : w.users.EmailsUnique) (hfree : w.sessions.get? w.ids.next.1 = none)
    {expiry : Instant} (hexpiry : w.now.add? s.sessionTtl = some expiry)
    (hwritable : s.auth.cookie.Writable) (hmethod : r.method = "POST")
    (hpath : r.path = "/api/v1/auth/login") (hlogin : Login.Brings r login) {user : User}
    (huser : s.Matches w login user) :
    ∃ session response w', (s.respond r).run w = (.ok response, w') ∧ response.status = 200 ∧
      s.HandsOut w w' user session response := by
  have hadmits := (matches_iff_admits hunique).1 huser
  obtain ⟨session, rfl, hrun⟩ := run_login_of_admits hhealthy hlogin hadmits hexpiry hfree
  have hissue := CookieSettings.issue_of_writable hwritable
    (issued w user.id expiry (Login.client s.auth.trustForwardedFor r)) w.now
  rw [hissue] at hrun
  exact ⟨_, _, _, run_respond_login_of_ok hmethod hpath hrun, rfl,
    handsOut_welcome hreach hexpiry hfree hissue⟩

/-- **The outcome of a login.** In a reachable and healthy world, let no two users share an email,
deleted users apart, let the next identifier of a session be free and its expiry on the calendar,
and let the name and the domain of the cookie be such as may stand in a header. Then a request to
log in, whatever its headers, its body and its peer are, is answered, and

* the answer has status 200, 400 or 401,
* it has status 400 exactly if the request does not bring a login,
* it has status 200 exactly if the request brings a login that matches a user,
* with any other status than 200 the world stays as it was,
* with status 200 a session of such a user has been stored and nothing else has been, and the answer
  hands it out: in the cookie its lifetime in whole seconds is that of all sessions, or one second
  less if the clock stands inside of a leap second. -/
theorem login_outcome (hreach : w.Reachable) (hhealthy : w.Healthy)
    (hunique : w.users.EmailsUnique) (hfree : w.sessions.get? w.ids.next.1 = none)
    {expiry : Instant} (hexpiry : w.now.add? s.sessionTtl = some expiry)
    (hwritable : s.auth.cookie.Writable) (hmethod : r.method = "POST")
    (hpath : r.path = "/api/v1/auth/login") :
    ∃ response w', (s.respond r).run w = (.ok response, w') ∧
      (response.status = 200 ∨ response.status = 400 ∨ response.status = 401) ∧
      (response.status = 400 ↔ ¬ ∃ login, Login.Brings r login) ∧
      (response.status = 200 ↔ ∃ login user, Login.Brings r login ∧ s.Matches w login user) ∧
      (response.status ≠ 200 → w' = w) ∧
      (response.status = 200 → ∃ login user session, Login.Brings r login ∧
        s.Matches w login user ∧ s.HandsOut w w' user session response) := by
  -- in this order the cases are those of the statuses 200, 401 and 400
  by_cases hmatches : ∃ login user, Login.Brings r login ∧ s.Matches w login user
  · obtain ⟨login, user, hlogin, huser⟩ := hmatches
    obtain ⟨session, response, w', hrun, hstatus, hhanded⟩ := run_respond_of_matches hreach hhealthy
      hunique hfree hexpiry hwritable hmethod hpath hlogin huser
    have hvalid : response.status ≠ 400 := by
      rw [hstatus]
      decide
    refine ⟨response, w', hrun, Or.inl hstatus, ?_, ?_, fun hnot => absurd hstatus hnot, ?_⟩
    · exact iff_of_false hvalid fun hnone => hnone ⟨login, hlogin⟩
    · exact iff_of_true hstatus ⟨login, user, hlogin, huser⟩
    · exact fun _ => ⟨login, user, session, hlogin, huser, hhanded⟩
  · by_cases hbrings : ∃ login, Login.Brings r login
    · obtain ⟨login, hlogin⟩ := hbrings
      have hrefusal : s.Refusal w (Text.trimmed login.email) login.password :=
        refusal_iff.2 fun user hadmits =>
          hmatches ⟨login, user, hlogin, (matches_iff_admits hunique).2 hadmits⟩
      have hrun := run_respond_of_refusal (hhealthy _) hmethod hpath hlogin hrefusal
      have hstatus : refusalAnswer.status = 401 := rfl
      refine ⟨refusalAnswer, w, hrun, Or.inr (Or.inr hstatus), ?_, ?_, fun _ => rfl, ?_⟩
      · exact iff_of_false (by decide) fun hnone => hnone ⟨login, hlogin⟩
      · exact iff_of_false (by decide) hmatches
      · exact fun hok => absurd hok (by decide)
    · obtain ⟨response, hrun, hstatus⟩ := run_respond_of_not_brings (s := s) hmethod hpath
        (fun login hlogin => hbrings ⟨login, hlogin⟩) w
      have hnot : response.status ≠ 200 := by
        rw [hstatus]
        decide
      refine ⟨response, w, hrun, Or.inr (Or.inl hstatus), ?_, ?_, fun _ => rfl, ?_⟩
      · exact iff_of_true hstatus hbrings
      · exact iff_of_false hnot hmatches
      · exact fun hok => absurd hok hnot

/-- The only user of the small world logs in. -/
theorem login_outcome_small :
    World.small.Reachable ∧ World.small.Healthy ∧ World.small.users.EmailsUnique ∧
      World.small.sessions.get? World.small.ids.next.1 = none ∧
      World.small.now.add? plain.sessionTtl = Instant.ofUnix? 604800 0 ∧
      plain.auth.cookie.Writable ∧
      ∃ response w' session, (plain.respond lodgerLogin).run World.small = (.ok response, w') ∧
        response.status = 200 ∧
        plain.HandsOut World.small w' World.lodger session response := by
  have hunique : World.small.users.EmailsUnique := by
    unfold Directory.EmailsUnique
    decide
  have hfree : World.small.sessions.get? World.small.ids.next.1 = none := by decide
  have hexpiry : World.small.now.add? plain.sessionTtl = Instant.ofUnix? 604800 0 := by decide
  have hwritable : plain.auth.cookie.Writable := by decide
  have honly : ∀ user ∈ World.small.users.users.rows, user = World.lodger := by decide
  have hmatches : plain.Matches World.small ⟨"a@b.com", "secret"⟩ World.lodger :=
    ⟨by decide, by decide, rfl, by decide, rfl⟩
  obtain ⟨response, w', hrun, -, -, hok, -, hhanded⟩ :=
    login_outcome World.small_reachable World.small_healthy hunique hfree hexpiry hwritable
      (r := lodgerLogin) rfl (by decide)
  have hstatus := hok.2 ⟨_, _, lodgerLogin_brings, hmatches⟩
  obtain ⟨login, user, session, -, huser, hsession⟩ := hhanded hstatus
  rw [honly user huser.stored] at hsession
  exact ⟨World.small_reachable, World.small_healthy, hunique, hfree, hexpiry, hwritable, response,
    w', session, hrun, hstatus, hsession⟩

/-- Half a second into the leap second at the end of the year 2016. -/
def leapSecond : Instant where
  day := 17166
  second := 86399
  nano := 1500000000
  nano_lt := by decide

/-- A session lives for seven days, which are 604800 seconds. The cookie that hands it out inside of
a leap second says one second less. -/
theorem max_age_short_in_leap_second :
    (World.small.after (.setClock leapSecond)).Reachable ∧
      (World.small.after (.setClock leapSecond)).Healthy ∧
      (World.small.after (.setClock leapSecond)).users.EmailsUnique ∧
      (World.small.after (.setClock leapSecond)).sessions.get?
        (World.small.after (.setClock leapSecond)).ids.next.1 = none ∧
      ((World.small.after (.setClock leapSecond)).now.add? plain.sessionTtl).isSome = true ∧
      plain.auth.cookie.Writable ∧ plain.sessionTtl.seconds = 604800 ∧
      (((plain.respond lodgerLogin).run (World.small.after (.setClock leapSecond))).1.toOption.map
        fun response => response.getAll "set-cookie") =
        some ["session_id=00000000-0000-4000-8000-000000000001; Path=/; " ++
          "Expires=Sat, 07 Jan 2017 23:59:59 GMT; Max-Age=604799; HttpOnly; Secure; " ++
          "SameSite=Strict"] := by
  have hunique : (World.small.after (.setClock leapSecond)).users.EmailsUnique := by
    unfold Directory.EmailsUnique
    decide
  have hreach : (World.small.after (.setClock leapSecond)).Reachable :=
    ⟨World.blank, World.beginnings ++ [.setClock leapSecond], ⟨rfl, rfl⟩, rfl⟩
  refine ⟨hreach, fun _ => rfl, hunique, by decide, by decide, by decide, by decide, ?_⟩
  decide +kernel

end SessionAuth.Service
