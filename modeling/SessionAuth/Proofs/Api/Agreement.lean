import SessionAuth.Proofs.Api.Endpoints
import SessionAuth.Proofs.Api.Login
import SessionAuth.Proofs.Cookie.RoundTrip
import SessionAuth.Proofs.Service.Lifetime

set_option autoImplicit false

/-! # The login and the guard agree

What a login hands out the guard takes, until the session ends or its owner loses the right to
act: `Service.login_guard_agree`. The way there and back leads through the text of the cookie, the
text of the identifier and the two stores, and it makes no difference what happens meanwhile. What
the client is told about itself is, as long as nothing has changed, what the login has told it.
-/

namespace SessionAuth.Service

variable {s : Service} {r : Request} {w w₁ : World} {response : Response}

/-- A login request that is answered with a success was a successful login. -/
theorem of_run_respond_login_eq_ok (hmethod : r.method = "POST")
    (hpath : r.path = "/api/v1/auth/login") (hrun : (s.respond r).run w = (.ok response, w₁))
    (hstatus : response.status = 200) :
    ∃ user session cookie, LetsIn w w₁ user session ∧
      s.auth.cookie.issue session w.now = .ok cookie ∧
      response = Login.welcome { user with roles := w.users.rolesOf user.id } cookie := by
  rw [respond_login hmethod hpath] at hrun
  rcases Endpoint.of_run_settle_eq_ok hrun with hlogin | ⟨f, -, rfl⟩
  · exact of_run_login_eq_ok (Action.of_run_mapError_eq_ok hlogin)
  · exact absurd hstatus (Response.status_ofFault_ne_ok f)

/-! ## A session that was handed out, at the guard -/

variable {user : User} {issued : Session} {name : String} {hs : Headers}

/-- The guard passes the session of a login exactly if it has not been revoked or expired and its
owner may act. -/
theorem LetsIn.passes_iff (hlets : LetsIn w w₁ user issued)
    (hid : Guard.presented? name hs = some issued.id) {es : List Event}
    (hhealthy : (w₁.through es).Healthy) :
    (∃ i, ((Guard.authenticate name hs).run (w₁.through es)).1 = .ok i) ↔
      Ledger.firstStamp issued.id (w₁.historyOf es) = none ∧
        (w₁.through es).now < issued.expiresAt ∧
        ∃ owner, (w₁.through es).users.users.get? user.id = some owner ∧
          owner.isActive = true ∧ owner.deletedAt = none := by
  rw [World.passes_through_iff hlets.get?_issued es hid, hlets.owned]
  constructor
  · rintro ⟨-, -, hstamp, hunexpired, owner, howned, hundeleted, hactive⟩
    exact ⟨hstamp, hunexpired, owner, howned, hactive, hundeleted⟩
  · rintro ⟨hstamp, hunexpired, owner, howned, hactive, hundeleted⟩
    exact ⟨.of_healthy hhealthy, hlets.unrevoked, hstamp, hunexpired, owner, howned, hundeleted,
      hactive⟩

/-- The identity that it gets is the session's and the owner's, with the email and the roles of
the moment. -/
theorem LetsIn.identity_of_passes (hlets : LetsIn w w₁ user issued)
    (hid : Guard.presented? name hs = some issued.id) {es : List Event} {i : Identity}
    (hi : ((Guard.authenticate name hs).run (w₁.through es)).1 = .ok i) :
    ∃ owner, (w₁.through es).users.users.get? user.id = some owner ∧
      i = ⟨user.id, owner.email, Role.names ((w₁.through es).users.rolesOf user.id),
        issued.id⟩ := by
  obtain ⟨-, row, owner, hvouches, rfl⟩ := (Guard.authenticate_succeeds_iff hid i).1 hi
  obtain ⟨rfl, -, -, -, howned, -, -⟩ :=
    (World.vouches_through_iff hlets.get?_issued es row owner).1 hvouches
  rw [Guard.identityOf, hlets.owned]
  exact ⟨owner, hlets.owned ▸ howned, rfl⟩

/-- While row and roles of the owner stay as they are the guard reports what the login reported. -/
theorem LetsIn.summary_of_passes (hlets : LetsIn w w₁ user issued)
    (hid : Guard.presented? name hs = some issued.id) {es : List Event} {i : Identity}
    (hi : ((Guard.authenticate name hs).run (w₁.through es)).1 = .ok i)
    (hrow : (w₁.through es).users.users.get? user.id = w₁.users.users.get? user.id)
    (hroles : (w₁.through es).users.rolesOf user.id = w₁.users.rolesOf user.id) :
    Handler.summary i = ⟨user.id, user.email, Role.names (w.users.rolesOf user.id)⟩ := by
  obtain ⟨owner, howned, rfl⟩ := hlets.identity_of_passes hid hi
  have hsame : owner = user := by
    rw [hrow, hlets.untouched, hlets.found] at howned
    exact (Option.some.inj howned).symm
  rw [hroles, hlets.untouched, hsame]
  rfl

/-! ## From the login to the guard -/

/-- **The login and the guard agree.** Let the name of the cookie consist of visible ASCII other
than the blank, the equals sign and the semicolon, and let a request to log in be answered with a
success. Then the answer hands out a cookie and shows a user `who`, and a session `issued` of this
user has been stored under an identifier that was free, which is the value of the cookie.

Let any run of events follow, such as other requests, revocations, changes of users and roles or
of the clock, and let no store call fail then. A request with the pair of the cookie passes the
guard exactly if nobody has revoked the session, the clock stands before its expiry, and its
owner is stored, switched on and not deleted at that moment. The identity it gets is that of the
session and the user. If row and roles of the owner are what they were after the login, a request
that asks for the identity is answered with the very data that the login was answered with. -/
theorem login_guard_agree (hname : ∀ c ∈ s.auth.cookie.name.toList, Cookie.IsNameChar c)
    (hmethod : r.method = "POST") (hpath : r.path = "/api/v1/auth/login")
    (hrun : (s.respond r).run w = (.ok response, w₁)) (hstatus : response.status = 200) :
    ∃ (cookie : String) (who : UserSummary) (issued : Session),
      response.getAll "set-cookie" = [cookie] ∧
      response.body =
        (Envelope.toJson UserSummary.toJson ⟨200, "Login successful", some who⟩).text ∧
      Cookie.returned cookie = s.auth.cookie.name ++ "=" ++ issued.id.text ∧
      w.sessions.get? issued.id = none ∧ w₁.sessions.get? issued.id = some issued ∧
      issued.userId = who.id ∧
      ∀ (es : List Event) (hs : Headers), (w₁.through es).Healthy →
        hs.getAll "cookie" = [Text.utf8 (Cookie.returned cookie)] →
        ((∃ i, ((Guard.authenticate s.auth.cookie.name hs).run (w₁.through es)).1 = .ok i) ↔
          Ledger.firstStamp issued.id (w₁.historyOf es) = none ∧
            (w₁.through es).now < issued.expiresAt ∧
            ∃ owner, (w₁.through es).users.users.get? who.id = some owner ∧
              owner.isActive = true ∧ owner.deletedAt = none) ∧
        ∀ i, ((Guard.authenticate s.auth.cookie.name hs).run (w₁.through es)).1 = .ok i →
          i.sessionId = issued.id ∧ i.userId = who.id ∧
          ((w₁.through es).users.users.get? who.id = w₁.users.users.get? who.id →
            (w₁.through es).users.rolesOf who.id = w₁.users.rolesOf who.id →
            ∀ q : Request, q.method = "GET" → q.path = "/api/v1/auth/me" → q.headers = hs →
              ∃ answer, ((s.respond q).run (w₁.through es)).1 = .ok answer ∧
                answer.status = 200 ∧
                answer.body = (Envelope.toJson UserSummary.toJson
                  ⟨200, "Authenticated user", some who⟩).text) := by
  obtain ⟨user, issued, cookie, hlets, hissue, rfl⟩ :=
    of_run_respond_login_eq_ok hmethod hpath hrun hstatus
  have hlegible : Cookie.Legible s.auth.cookie.name := .of_isNameChar hname
  refine ⟨cookie, ⟨user.id, user.email, Role.names (w.users.rolesOf user.id)⟩, issued, rfl, rfl,
    CookieSettings.returned_of_issue hlegible.unsplit hissue, hlets.free, hlets.get?_issued,
    hlets.owned, ?_⟩
  intro es hs hhealthy hsent
  have hid : Guard.presented? s.auth.cookie.name hs = some issued.id :=
    Guard.presented?_of_returned hlegible hissue hsent
  refine ⟨hlets.passes_iff hid hhealthy, fun i hi => ?_⟩
  obtain ⟨owner, -, hidentity⟩ := hlets.identity_of_passes hid hi
  refine ⟨by rw [hidentity], by rw [hidentity], fun hrow hroles q hget hme hheaders => ?_⟩
  -- the guard changes nothing, so the request for the identity meets the world that it has judged
  have hguard : (Guard.authenticate s.auth.cookie.name q.headers).run (w₁.through es) =
      (.ok i, w₁.through es) := by
    rw [hheaders]
    exact Prod.ext hi (Guard.authenticate_onlyLooks _ _ _)
  have hsummary := hlets.summary_of_passes hid hi hrow hroles
  refine ⟨_, congrArg Prod.fst (run_respond_me hget hme hguard), rfl, ?_⟩
  rw [hsummary]
  rfl

/-- Half an hour later the user of the small world, who has another role by then, passes the guard
with the cookie of the login. -/
theorem login_guard_agree_small :
    (∀ c ∈ plain.auth.cookie.name.toList, Cookie.IsNameChar c) ∧
    lodgerLogin.method = "POST" ∧ lodgerLogin.path = "/api/v1/auth/login" ∧
    ∃ response w₁ cookie, (plain.respond lodgerLogin).run World.small = (.ok response, w₁) ∧
      response.status = 200 ∧ response.getAll "set-cookie" = [cookie] ∧
      ∃ i, ((Guard.authenticate plain.auth.cookie.name
        [⟨"Cookie", Text.utf8 (Cookie.returned cookie)⟩]).run
          (w₁.through [.setClock World.halfTime,
            .assignRole World.lodger.id ⟨.ofNat 3, "admin", none, .epoch, .epoch⟩])).1 = .ok i := by
  have hname : ∀ c ∈ plain.auth.cookie.name.toList, Cookie.IsNameChar c := by
    have hall : (plain.auth.cookie.name.toList.all fun c =>
        decide (Cookie.IsNameChar c)) = true := by
      decide
    exact fun c hc => of_decide_eq_true (List.all_eq_true.1 hall c hc)
  have hstatus : (match ((plain.respond lodgerLogin).run World.small).1 with
      | .ok response => response.status
      | .error _ => 0) = 200 := by
    decide +kernel
  have hrows : ∀ row ∈ ((plain.respond lodgerLogin).run World.small).2.sessions.rows,
      row.userId = World.lodger.id ∧ World.halfTime < row.expiresAt := by
    decide +kernel
  have hframe : ((plain.respond lodgerLogin).run World.small).2.users = World.small.users ∧
      _ ∧ ((plain.respond lodgerLogin).run World.small).2.faults = World.small.faults :=
    Program.frame_run (ExceptT.run (plain.respond lodgerLogin)) World.small
  have hsent : ∀ value, Headers.getAll [⟨"Cookie", value⟩] "cookie" = [value] := by
    intro value
    have hword : Text.sameWord "Cookie" "cookie" = true := by decide
    simp [Headers.getAll, Header.isNamed, hword]
  rcases hrun : (plain.respond lodgerLogin).run World.small with ⟨o | response, w₁⟩
  · rw [hrun] at hstatus
    cases hstatus
  · rw [hrun] at hstatus hrows hframe
    obtain ⟨cookie, who, issued, hcookie, -, -, -, hstored, howned, hagree⟩ :=
      login_guard_agree hname rfl (by decide) hrun hstatus
    obtain ⟨huser, hunexpired⟩ := hrows issued (Table.mem_of_get? hstored)
    refine ⟨hname, rfl, by decide, response, w₁, cookie, rfl, hstatus, hcookie, ?_⟩
    refine (hagree _ _ (fun k => ?_) (hsent _)).1.2
      ⟨rfl, hunexpired, World.lodger, ?_, rfl, rfl⟩
    · exact congrFun hframe.2.2 k
    · rw [← howned, huser]
      exact congrArg (fun d : Directory => d.users.get? World.lodger.id) hframe.1

end SessionAuth.Service
