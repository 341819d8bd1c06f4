import SessionAuth.Proofs.Api.Confinement
import SessionAuth.Proofs.Service.Faults

set_option autoImplicit false

/-! # The gate in front of the protected endpoints

Three endpoints stand behind the guard. Their handlers cannot be reached past it: put any work at
all in the place of a handler (`Endpoint.respondWith`), and a request that the guard refuses gets
the same answer, by the same calls, as if nothing had been there
(`Endpoint.respondWith_of_refused`). The answer shows the fault of the guard and nothing else;
it depends on the method only in what is usual for `HEAD` and for methods that are not allowed.

Past the guard the handlers tell a client about the very identity that has been granted.
-/

namespace SessionAuth

namespace Action

variable {ε α β : Type}

theorem run_map (f : α → β) (x : Action ε α) (w : World) :
    (f <$> x).run w = ((x.run w).1.map f, (x.run w).2) := by
  rw [map_eq_pure_bind, run_bind]
  rcases x.run w with ⟨e | a, v⟩
  · rfl
  · rfl

theorem calls_map (f : α → β) (x : Action ε α) (w : World) : (f <$> x).calls w = x.calls w := by
  rw [map_eq_pure_bind]
  rcases hrun : x.run w with ⟨e | a, v⟩
  · exact calls_bind_of_error hrun _
  · exact (calls_bind_of_ok hrun _).trans (List.append_nil _)

end Action

namespace Endpoint

variable {e : Endpoint} {s : Service} {r : Request} {w : World} {f : Fault}

/-! ## Other work in the place of the handler -/

/-- The endpoint with some work in the place of its handler's. -/
def respondWith (e : Endpoint) (work : Option Identity → Action Failure Response) (s : Service)
    (r : Request) : Action Overflow Response :=
  let served := settle do work (← e.identify s r)
  if r.method = e.verb.label then served
  else if r.method = "HEAD" ∧ e.verb = .get then Response.withoutBody <$> served
  else e.reject s r

theorem respond_eq_respondWith (e : Endpoint) (s : Service) (r : Request) :
    e.respond s r = e.respondWith (fun who => e.handler.handle s who r) s r := rfl

/-- Turning faults into answers calls nothing. -/
theorem calls_settle (x : Action Failure Response) (w : World) :
    (settle x).calls w = x.calls w := by
  show Program.calls (ExceptT.run x >>= _) w = _
  rw [Program.calls_bind]
  rcases Program.run (ExceptT.run x) w with ⟨(f | o) | response, w'⟩ <;> exact List.append_nil _

theorem calls_identify (he : e.guarded = true) (s : Service) (r : Request) (w : World) :
    (e.identify s r).calls w =
      (Guard.authenticate s.auth.cookie.name r.headers).calls w := by
  rw [identify, if_pos he, Action.calls_map, Action.calls_mapError]

/-! ## Refused by the guard -/

/-- The answer to a request that the guard refuses with a fault. -/
def refusal (e : Endpoint) (r : Request) (f : Fault) : Response :=
  if r.method = e.verb.label then .ofFault f
  else if r.method = "HEAD" ∧ e.verb = .get then (Response.ofFault f).withoutBody
  else (Response.ofFault f).withHeader "allow" e.verb.allowed

/-- A refusal has the status of its fault, which is not that of a success. -/
theorem status_refusal (e : Endpoint) (r : Request) (f : Fault) :
    (e.refusal r f).status = f.status := by
  unfold refusal
  split
  · rfl
  · split
    · rfl
    · rfl

theorem run_identify_of_refused (he : e.guarded = true)
    (h : ((Guard.authenticate s.auth.cookie.name r.headers).run w).1 = .error f) :
    (e.identify s r).run w = (.error (.fault f), w) := by
  rw [identify, if_pos he, Action.run_map, Action.run_mapError, h,
    Guard.authenticate_onlyLooks]
  rfl

/-- Whatever was to be done for the identity, the answer shows why there is none, and only the guard
has called anything. -/
theorem settle_of_refused (he : e.guarded = true)
    (h : ((Guard.authenticate s.auth.cookie.name r.headers).run w).1 = .error f)
    (work : Option Identity → Action Failure Response) :
    (settle (e.identify s r >>= work)).run w = (.ok (.ofFault f), w) ∧
      (settle (e.identify s r >>= work)).calls w =
        (Guard.authenticate s.auth.cookie.name r.headers).calls w := by
  have hidentify := run_identify_of_refused he h
  constructor
  · rw [run_settle, Action.run_bind_of_error hidentify]
  · rw [calls_settle, Action.calls_bind_of_error hidentify, calls_identify he]

theorem reject_of_refused (he : e.guarded = true)
    (h : ((Guard.authenticate s.auth.cookie.name r.headers).run w).1 = .error f) :
    (e.reject s r).run w = (.ok ((Response.ofFault f).withHeader "allow" e.verb.allowed), w) ∧
      (e.reject s r).calls w = (Guard.authenticate s.auth.cookie.name r.headers).calls w := by
  obtain ⟨hrun, hcalls⟩ := settle_of_refused he h fun _ => pure { status := 405 }
  have hreject : e.reject s r = (·.withHeader "allow" e.verb.allowed) <$>
      settle (e.identify s r >>= fun _ => pure { status := 405 }) :=
    (map_eq_pure_bind _ _).symm
  constructor
  · rw [hreject, Action.run_map, hrun]
    rfl
  · rw [hreject, Action.calls_map, hcalls]

/-- **A request that the guard refuses gets nowhere.** The answer is the refusal and the world is
what it was, whatever work stands behind the guard, and the calls are those of the guard. -/
theorem respondWith_of_refused (he : e.guarded = true)
    (h : ((Guard.authenticate s.auth.cookie.name r.headers).run w).1 = .error f)
    (work : Option Identity → Action Failure Response) :
    (e.respondWith work s r).run w = (.ok (e.refusal r f), w) ∧
      (e.respondWith work s r).calls w =
        (Guard.authenticate s.auth.cookie.name r.headers).calls w := by
  obtain ⟨hrun, hcalls⟩ := settle_of_refused he h work
  unfold respondWith refusal
  by_cases hmethod : r.method = e.verb.label
  · rw [if_pos hmethod, if_pos hmethod]
    exact ⟨hrun, hcalls⟩
  · rw [if_neg hmethod, if_neg hmethod]
    by_cases hhead : r.method = "HEAD" ∧ e.verb = .get
    · rw [if_pos hhead, if_pos hhead, Action.run_map, Action.calls_map, hrun]
      exact ⟨rfl, hcalls⟩
    · rw [if_neg hhead, if_neg hhead]
      exact reject_of_refused he h

end Endpoint

namespace Service

variable {s : Service} {r : Request} {w : World}

/-- The endpoints behind the guard. -/
theorem exists_guarded (hpath : r.path = "/api/v1/auth/logout" ∨ r.path = "/api/v1/auth/me" ∨
      r.path = "/api/v1/protected") :
    ∃ e ∈ Endpoint.all, e.path = r.path ∧ e.guarded = true := by
  obtain h | h | h := hpath
  · exact ⟨⟨"/api/v1/auth/logout", .post, .logout, true⟩, by decide, h.symm, rfl⟩
  · exact ⟨⟨"/api/v1/auth/me", .get, .me, true⟩, by decide, h.symm, rfl⟩
  · exact ⟨⟨"/api/v1/protected", .get, .sample, true⟩, by decide, h.symm, rfl⟩

/-- A client that the guard knows is let through to what is protected. -/
theorem run_respond_sample {i : Identity} (hmethod : r.method = "GET")
    (hpath : r.path = "/api/v1/protected")
    (hrun : (Guard.authenticate s.auth.cookie.name r.headers).run w = (.ok i, w)) :
    (s.respond r).run w =
      (.ok (Handler.success "Protected access granted"
        (some (.object [("user_id", .string i.userId.text)]))), w) := by
  have he : (⟨"/api/v1/protected", .get, .sample, true⟩ : Endpoint) ∈ Endpoint.all := by
    decide
  rw [respond_of_mem he hpath, Endpoint.respond_of_method hmethod,
    Endpoint.run_serve_of_identity rfl hrun]
  exact Endpoint.run_settle_of_ok rfl

/-- **The guard is the gate of the protected endpoints.** Whatever the world is, the faults of its
stores included, and whatever a request to one of the three paths says otherwise:

* If the guard refuses it with a fault, nothing behind the guard matters. Any work in the place of
  the handler leads to the same answer, there are no calls but those of the guard, and the world
  stays as it is. With the endpoint's own method the answer is that to the fault.
* If the guard grants it an identity, it reads with `GET` about this identity.
* If it is answered with success, the guard has granted it an identity. -/
theorem guard_gates (hpath : r.path = "/api/v1/auth/logout" ∨ r.path = "/api/v1/auth/me" ∨
      r.path = "/api/v1/protected") :
    (∀ f, ((Guard.authenticate s.auth.cookie.name r.headers).run w).1 = .error f →
      ∃ e ∈ Endpoint.all, e.path = r.path ∧
        s.respond r = e.respondWith (fun who => e.handler.handle s who r) s r ∧
        (∀ work, (e.respondWith work s r).run w = (s.respond r).run w) ∧
        (s.respond r).calls w = (Guard.authenticate s.auth.cookie.name r.headers).calls w ∧
        (s.respond r).run w = (.ok (e.refusal r f), w) ∧
        (r.method = e.verb.label → (s.respond r).run w = (.ok (.ofFault f), w))) ∧
    (∀ i, ((Guard.authenticate s.auth.cookie.name r.headers).run w).1 = .ok i →
      r.method = "GET" →
        (r.path = "/api/v1/auth/me" → (s.respond r).run w =
          (.ok (Handler.success "Authenticated user" (some (Handler.summary i).toJson)), w)) ∧
        (r.path = "/api/v1/protected" → (s.respond r).run w =
          (.ok (Handler.success "Protected access granted"
            (some (.object [("user_id", .string i.userId.text)]))), w))) ∧
    (∀ response, ((s.respond r).run w).1 = .ok response → response.status = 200 →
      ∃ i, ((Guard.authenticate s.auth.cookie.name r.headers).run w).1 = .ok i) := by
  obtain ⟨e, he, hpathe, hguarded⟩ := exists_guarded hpath
  have hrespond : s.respond r = e.respondWith (fun who => e.handler.handle s who r) s r :=
    (respond_of_mem he hpathe.symm).trans (e.respond_eq_respondWith s r)
  have hgranted : ∀ i, ((Guard.authenticate s.auth.cookie.name r.headers).run w).1 = .ok i →
      (Guard.authenticate s.auth.cookie.name r.headers).run w = (.ok i, w) :=
    fun i hi => Prod.ext hi (Guard.authenticate_onlyLooks _ _ w)
  refine ⟨fun f hf => ?_, fun i hi hmethod => ⟨fun hme => ?_, fun hsample => ?_⟩, ?_⟩
  · have hrefused := fun work => Endpoint.respondWith_of_refused hguarded hf work
    obtain ⟨hrun, hcalls⟩ := hrefused fun who => e.handler.handle s who r
    rw [← hrespond] at hrun hcalls
    refine ⟨e, he, hpathe, hrespond, fun work => ?_, hcalls, hrun, fun hmethod => ?_⟩
    · rw [hrun, (hrefused work).1]
    · rw [hrun, Endpoint.refusal, if_pos hmethod]
  · exact run_respond_me hmethod hme (hgranted i hi)
  · exact run_respond_sample hmethod hsample (hgranted i hi)
  · intro response hresponse hstatus
    cases hguard : ((Guard.authenticate s.auth.cookie.name r.headers).run w).1 with
    | ok i => exact ⟨i, rfl⟩
    | error f =>
        -- the answer would be a refusal, and no fault has the status of a success
        have hrun := (Endpoint.respondWith_of_refused hguarded hguard
          fun who => e.handler.handle s who r).1
        rw [hrespond, hrun] at hresponse
        cases hresponse
        rw [Endpoint.status_refusal] at hstatus
        exact absurd hstatus (Response.status_ofFault_ne_ok f)

/-- The user asks for what is protected. -/
def lodgerVisit : Request where
  target := "/api/v1/protected?page=1"
  headers := [⟨"Cookie", Text.utf8 "session_id=00000000-0000-0000-0000-000000000005"⟩]

/-- The small world while its users cannot be read. -/
def withoutUsers : World :=
  { World.small with faults := fun k => if k = .findById then some (.database "gone") else none }

/-- The user of the small world is let in with the cookie, and not while the users cannot be
read. -/
theorem guard_gates_small :
    (plain.respond lodgerVisit).run World.small =
        (.ok (Handler.success "Protected access granted"
          (some (.object [("user_id", .string World.lodger.id.text)]))), World.small) ∧
      (plain.respond lodgerVisit).run withoutUsers =
        (.ok (.ofFault (.database "gone")), withoutUsers) := by
  have hpath : lodgerVisit.path = "/api/v1/auth/logout" ∨ lodgerVisit.path = "/api/v1/auth/me" ∨
      lodgerVisit.path = "/api/v1/protected" := .inr (.inr (by decide))
  constructor
  · have hi : ((Guard.authenticate plain.auth.cookie.name lodgerVisit.headers).run
        World.small).1 = .ok ⟨World.lodger.id, "a@b.com", ["user"], World.stay.id⟩ := by
      decide +kernel
    exact ((guard_gates hpath).2.1 _ hi rfl).2 (by decide)
  · have hf : ((Guard.authenticate plain.auth.cookie.name lodgerVisit.headers).run
        withoutUsers).1 = .error (.database "gone") := by
      decide +kernel
    have hverb : ∀ e ∈ Endpoint.all, e.path = lodgerVisit.path →
        lodgerVisit.method = e.verb.label := by
      decide
    obtain ⟨e, he, hpathe, -, -, -, -, hrun⟩ := (guard_gates hpath).1 _ hf
    exact hrun (hverb e he hpathe)

end Service

end SessionAuth
