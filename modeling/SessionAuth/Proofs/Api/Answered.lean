import SessionAuth.Proofs.Api.Gate

set_option autoImplicit false

/-! # No server error without a cause in the infrastructure

A service is *provided for* if its stores do not fail, the next identifier of a session is free,
the cookie may stand in a header, and the clock is far enough from both ends of the calendar. Then
nothing that a client sends makes the service fail: every request is answered, and the answer is a
success or blames the request (`Service.answered_without_server_error`).

The handlers behind the guard would blame the wiring of the service if they were called without an
identity. They never are: anything at all may be done in the place of this fault, and no answer
and no call changes (`Endpoint.respondWith_of_agrees`).
-/

namespace SessionAuth

/-- What a service needs from outside: stores that do not fail, a fresh identifier, a cookie that
may stand in a header, and a clock that leaves room on both sides. -/
structure Service.ProvidedFor (s : Service) (w : World) : Prop where
  healthy : w.Healthy
  fresh : w.sessions.get? w.ids.next.1 = none
  cookie : s.auth.cookie.Writable
  ahead : (w.now.add? s.sessionTtl).isSome = true
  behind : (w.now.sub? (.ofHours 1)).isSome = true

/-- The statuses of answers that do not blame the service. -/
def Response.blamelessStatuses : List Nat := [200, 400, 401, 404, 405]

/-- The work ends in an answer or a fault that does not blame the service. -/
inductive IsBlameless : Except Failure Response → Prop where
  | answer {response : Response} (h : response.status ∈ Response.blamelessStatuses) :
      IsBlameless (.ok response)
  | fault {f : Fault} (h : f.status ∈ Response.blamelessStatuses) : IsBlameless (.error (.fault f))

/-- A success blames nobody. -/
theorem IsBlameless.success {response : Response} (h : response.status = 200) :
    IsBlameless (.ok response) := by
  refine .answer ?_
  rw [h]
  decide

/-- While the stores do not fail, the guard grants an identity or refuses the request. -/
theorem Guard.run_authenticate_cases {w : World} (hw : w.Healthy) (name : String) (hs : Headers) :
    (∃ i, (authenticate name hs).run w = (.ok i, w)) ∨
      (authenticate name hs).run w = (.error .unauthorized, w) := by
  by_cases hvouches : ∃ id row owner, presented? name hs = some id ∧ w.Vouches id row owner
  · obtain ⟨id, row, owner, hid, hv⟩ := hvouches
    refine Or.inl ⟨identityOf w row owner, ?_⟩
    rw [run_authenticate_of_presented hid]
    exact run_resolve_of_vouches (.of_healthy hw) hv
  · exact Or.inr (run_authenticate_of_not_vouches hw hvouches)

/-! ## Handlers -/

namespace Service.ProvidedFor

variable {s : Service} {w : World}

/-- A login ends well, or it is invalid or refused. -/
theorem login (h : s.ProvidedFor w) (r : Request) :
    IsBlameless (((s.login r).mapError .fault).run w).1 := by
  rw [Action.run_mapError]
  by_cases hbrings : ∃ login, Login.Brings r login
  · obtain ⟨login, hlogin⟩ := hbrings
    by_cases hadmits : ∃ u, s.Admits w (Text.trimmed login.email) login.password u
    · obtain ⟨u, hu⟩ := hadmits
      obtain ⟨expiry, hexpiry⟩ := Option.isSome_iff_exists.1 h.ahead
      obtain ⟨session, -, hrun⟩ := run_login_of_admits h.healthy hlogin hu hexpiry h.fresh
      rw [hrun, CookieSettings.issue_of_writable h.cookie]
      exact .success rfl
    · have hrefusal := refusal_iff.2 fun u hu => hadmits ⟨u, hu⟩
      rw [run_login_of_refusal (h.healthy _) hlogin hrefusal]
      exact .fault (by decide)
  · obtain ⟨f, hrun, hstatus⟩ := run_login_of_not_brings (s := s) (not_exists.1 hbrings) w
    rw [hrun]
    refine .fault ?_
    rw [hstatus]
    decide

/-- The cookie that takes a session back can be written. -/
theorem clear (h : s.ProvidedFor w) : ∃ cookie, s.auth.cookie.clear w.now = .ok cookie := by
  obtain ⟨past, hpast⟩ := Option.isSome_iff_exists.1 h.behind
  have hempty : Header.Writable "" := by decide
  have hwrite : s.auth.cookie.write "" past 0 =
      .ok ("; ".intercalate (s.auth.cookie.attributes "" past 0)) :=
    if_pos ((CookieSettings.all_isWritable_iff hempty past 0).2 h.cookie)
  refine ⟨"; ".intercalate (s.auth.cookie.attributes "" past 0), ?_⟩
  rw [CookieSettings.clear, hpast]
  simp only [hwrite]
  rfl

/-- Signing out ends well. -/
theorem signOut (h : s.ProvidedFor w) (i : Identity) :
    IsBlameless ((Handler.signOut s i).run w).1 := by
  have hrevoke : (Service.logout i.sessionId).run w =
      (.ok (), { w with sessions := w.sessions.revoke i.sessionId w.now }) := by
    rw [Service.logout, Service.revoke, Action.run_bind_of_ok (Action.run_now w),
      Action.run_mapError]
    show ((w.unlessFaulty .revokeSession _).1.mapError _, (w.unlessFaulty .revokeSession _).2) = _
    rw [World.unlessFaulty_of_none (h.healthy _)]
    rfl
  have hlogout : ((Service.logout i.sessionId).mapError Failure.fault).run w =
      (.ok (), { w with sessions := w.sessions.revoke i.sessionId w.now }) := by
    rw [Action.run_mapError, hrevoke]
    rfl
  obtain ⟨cookie, hcookie⟩ := h.clear
  rw [Handler.signOut, Action.run_bind_of_ok hlogout, Action.run_bind_of_ok (Action.run_now _)]
  simp only [hcookie]
  exact .success rfl

end Service.ProvidedFor

/-! ## Endpoints -/

namespace Endpoint

variable {e : Endpoint} {s : Service} {r : Request} {w : World}

/-- What stands in front of a handler lets a request pass or refuses it. -/
theorem run_identify_cases (hw : w.Healthy) (e : Endpoint) (s : Service) (r : Request) :
    (∃ who, (e.identify s r).run w = (.ok who, w)) ∨
      (e.identify s r).run w = (.error (.fault .unauthorized), w) := by
  cases hguarded : e.guarded with
  | false =>
      refine Or.inl ⟨none, ?_⟩
      simp [identify, hguarded]
  | true =>
      rcases Guard.run_authenticate_cases hw s.auth.cookie.name r.headers with ⟨i, hi⟩ | hrefused
      · refine Or.inl ⟨some i, ?_⟩
        rw [identify, if_pos hguarded, Action.run_map, Action.run_mapError, hi]
        rfl
      · exact Or.inr (run_identify_of_refused hguarded (by rw [hrefused]))

/-- A handler ends without blame for the service, for whoever has passed. -/
theorem handle_isBlameless (h : s.ProvidedFor w) (he : e ∈ all) {who : Option Identity}
    (hwho : ((e.identify s r).run w).1 = .ok who) :
    IsBlameless ((e.handler.handle s who r).run w).1 := by
  simp only [all, List.mem_cons, List.not_mem_nil, or_false] at he
  rcases he with rfl | rfl | rfl | rfl | rfl
  · exact .success rfl
  · exact h.login r
  · obtain ⟨i, rfl, -⟩ := of_run_identify_eq_ok rfl hwho
    exact h.signOut i
  · obtain ⟨i, rfl, -⟩ := of_run_identify_eq_ok rfl hwho
    exact .success rfl
  · obtain ⟨i, rfl, -⟩ := of_run_identify_eq_ok rfl hwho
    exact .success rfl

/-- What ends without blame is answered without blame. -/
theorem settle_of_isBlameless {x : Action Failure Response} (h : IsBlameless (x.run w).1) :
    ∃ response, ((settle x).run w).1 = .ok response ∧
      response.status ∈ Response.blamelessStatuses := by
  rw [run_settle]
  rcases hrun : x.run w with ⟨result, w'⟩
  rw [hrun] at h
  cases h with
  | answer h => exact ⟨_, rfl, h⟩
  | fault h => exact ⟨_, rfl, h⟩

/-- A request is answered without blame if the work for those who pass ends so. -/
theorem settle_identify (hw : w.Healthy) {work : Option Identity → Action Failure Response}
    (hwork : ∀ who, ((e.identify s r).run w).1 = .ok who → IsBlameless ((work who).run w).1) :
    ∃ response, ((settle (e.identify s r >>= work)).run w).1 = .ok response ∧
      response.status ∈ Response.blamelessStatuses := by
  refine settle_of_isBlameless ?_
  rcases e.run_identify_cases hw s r with ⟨who, hpasses⟩ | hrefused
  · rw [Action.run_bind_of_ok hpasses]
    exact hwork who (by rw [hpasses])
  · rw [Action.run_bind_of_error hrefused]
    exact .fault (by decide)

/-- A change of the answer that leaves its status leaves it without blame. -/
theorem map_of_isBlameless {x : Action Overflow Response} {f : Response → Response}
    (hf : ∀ response, (f response).status = response.status)
    (h : ∃ response, (x.run w).1 = .ok response ∧ response.status ∈ Response.blamelessStatuses) :
    ∃ response, ((f <$> x).run w).1 = .ok response ∧
      response.status ∈ Response.blamelessStatuses := by
  obtain ⟨response, hrun, hstatus⟩ := h
  refine ⟨f response, ?_, ?_⟩
  · rw [Action.run_map, hrun]
    rfl
  · rwa [hf]

/-- An endpoint answers every request without blame. -/
theorem respond_isBlameless (h : s.ProvidedFor w) (he : e ∈ all) (r : Request) :
    ∃ response, ((e.respond s r).run w).1 = .ok response ∧
      response.status ∈ Response.blamelessStatuses := by
  have hserve : ∃ response, ((e.serve s r).run w).1 = .ok response ∧
      response.status ∈ Response.blamelessStatuses :=
    settle_identify h.healthy fun who hwho => handle_isBlameless h he hwho
  have hreject : ∃ response, ((settle (e.identify s r >>= fun _ =>
      (pure { status := 405 } : Action Failure Response))).run w).1 = .ok response ∧
        response.status ∈ Response.blamelessStatuses :=
    settle_identify h.healthy fun who hwho => .answer (by decide)
  unfold respond
  by_cases hmethod : r.method = e.verb.label
  · rw [if_pos hmethod]
    exact hserve
  · rw [if_neg hmethod]
    by_cases hhead : r.method = "HEAD" ∧ e.verb = .get
    · rw [if_pos hhead]
      exact map_of_isBlameless (fun _ => rfl) hserve
    · rw [if_neg hhead, reject, ← map_eq_pure_bind]
      exact map_of_isBlameless (fun _ => rfl) hreject

/-! ## The identity that is never missing -/

/-- The fault of a handler that needs an identity and is given none. -/
def identityMissing : Failure := .fault (.internal "identity context missing")

/-- Some work does what the handler does, except where the handler would miss the identity: there it
may do anything. -/
def Agrees (e : Endpoint) (s : Service) (r : Request)
    (work : Option Identity → Action Failure Response) : Prop :=
  ∀ who, e.handler.handle s who r ≠ throw identityMissing → work who = e.handler.handle s who r

/-- A login does not miss an identity. -/
theorem login_ne_throw (s : Service) (r : Request) :
    (s.login r).mapError Failure.fault ≠ throw identityMissing := by
  intro heq
  -- in a world without users every login is invalid or refused
  have hrun := congrArg (fun x : Action Failure Response => (x.run World.blank).1) heq
  simp only [Action.run_mapError] at hrun
  by_cases hbrings : ∃ login, Login.Brings r login
  · obtain ⟨login, hlogin⟩ := hbrings
    have hnobody : s.Refusal World.blank (Text.trimmed login.email) login.password :=
      .unknown fun u hu => by cases hu
    rw [Service.run_login_of_refusal rfl hlogin hnobody] at hrun
    cases hrun
  · obtain ⟨f, hlogin, hstatus⟩ := Service.run_login_of_not_brings (s := s)
      (not_exists.1 hbrings) World.blank
    rw [hlogin] at hrun
    cases hrun
    cases hstatus

/-- Signing out does not miss an identity: it begins with a look at the clock. -/
theorem signOut_ne_throw (s : Service) (i : Identity) :
    Handler.signOut s i ≠ throw identityMissing := by
  intro heq
  have hrun := congrArg ExceptT.run heq
  cases hrun

/-- For those who pass, work that agrees with the handler is the handler's. -/
theorem identify_bind_of_agrees (he : e ∈ all)
    {work : Option Identity → Action Failure Response} (hwork : e.Agrees s r work) :
    e.identify s r >>= work = e.identify s r >>= fun who => e.handler.handle s who r := by
  have hguarded : e.guarded = true → (∀ i, work (some i) = e.handler.handle s (some i) r) →
      e.identify s r >>= work = e.identify s r >>= fun who => e.handler.handle s who r := by
    intro hguarded hsome
    simp only [identify, if_pos hguarded, bind_map_left, hsome]
  simp only [all, List.mem_cons, List.not_mem_nil, or_false] at he
  rcases he with rfl | rfl | rfl | rfl | rfl
  · have hnone := hwork none fun heq => by cases congrArg ExceptT.run heq
    exact hnone
  · exact hwork none (login_ne_throw s r)
  · exact hguarded rfl fun i => hwork (some i) (signOut_ne_throw s i)
  · exact hguarded rfl fun i => hwork (some i) fun heq => by cases congrArg ExceptT.run heq
  · exact hguarded rfl fun i => hwork (some i) fun heq => by cases congrArg ExceptT.run heq

/-- **No handler ever misses its identity**: whatever is done in the place of that fault, the
endpoint does the same for every request. -/
theorem respondWith_of_agrees (he : e ∈ all) {work : Option Identity → Action Failure Response}
    (hwork : e.Agrees s r work) : e.respondWith work s r = e.respond s r := by
  rw [respond_eq_respondWith]
  unfold respondWith
  rw [show (e.identify s r >>= fun who => work who) = _ from identify_bind_of_agrees he hwork]

end Endpoint

namespace Service

/-- **No server error without a cause in the infrastructure.** Whatever a client sends,

* in every world that provides for the service the request is answered, without an overflow, and
  with the status of a success or of a request that is to blame,
* in every world, the answer and the calls stay the same if something else is done, anything at all,
  where a handler would miss the identity that it needs. -/
theorem answered_without_server_error (s : Service) (r : Request) :
    (∀ w, s.ProvidedFor w → ∃ response, ((s.respond r).run w).1 = .ok response ∧
      response.status ∈ Response.blamelessStatuses ∧ response.status < 500) ∧
    ∀ e ∈ Endpoint.all, e.path = r.path → ∀ work, e.Agrees s r work →
      e.respondWith work s r = s.respond r := by
  constructor
  · intro w h
    have hbelow : ∀ status ∈ Response.blamelessStatuses, status < 500 := by decide
    suffices hanswer : ∃ response, ((s.respond r).run w).1 = .ok response ∧
        response.status ∈ Response.blamelessStatuses by
      obtain ⟨response, hrun, hstatus⟩ := hanswer
      exact ⟨response, hrun, hstatus, hbelow _ hstatus⟩
    cases hfind : Endpoint.all.find? fun e => e.path == r.path with
    | none =>
        rw [respond, respondAt, hfind]
        exact ⟨_, rfl, by decide⟩
    | some e =>
        rw [respond, respondAt, hfind]
        exact Endpoint.respond_isBlameless h (List.mem_of_find?_eq_some hfind) r
  · intro e he hpath work hwork
    rw [respond_of_mem he hpath.symm, Endpoint.respondWith_of_agrees he hwork]

/-- The small world provides for the small service. -/
theorem plain_providedFor : plain.ProvidedFor World.small where
  healthy := World.small_healthy
  fresh := by decide +kernel
  cookie := by decide
  ahead := by decide
  behind := by decide

/-- Work that lets in whoever has no identity, where the handler of what is protected fails. -/
def openDoor : Option Identity → Action Failure Response
  | some i => Handler.sample.handle plain (some i) lodgerVisit
  | none => return { status := 200 }

/-- The user of the small world logs in without a server error, and an open door behind the guard
makes no difference, though the handler would miss the identity there. -/
theorem answered_without_server_error_small :
    plain.ProvidedFor World.small ∧
      (∃ response, ((plain.respond lodgerLogin).run World.small).1 = .ok response ∧
        response.status ∈ Response.blamelessStatuses ∧ response.status < 500) ∧
      Handler.sample.handle plain none lodgerVisit = throw Endpoint.identityMissing ∧
      Endpoint.respondWith ⟨"/api/v1/protected", .get, .sample, true⟩ openDoor plain lodgerVisit =
        plain.respond lodgerVisit := by
  have hagrees : Endpoint.Agrees ⟨"/api/v1/protected", .get, .sample, true⟩ plain lodgerVisit
      openDoor := by
    intro who hwho
    cases who with
    | none => exact absurd rfl hwho
    | some i => rfl
  refine ⟨plain_providedFor, ?_, rfl, ?_⟩
  · exact (answered_without_server_error plain lodgerLogin).1 World.small plain_providedFor
  · exact (answered_without_server_error plain lodgerVisit).2 _ (by decide) (by decide) openDoor
      hagrees

end Service

end SessionAuth
