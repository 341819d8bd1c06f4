import SessionAuth.Api.Router
import SessionAuth.Proofs.Service.Running

set_option autoImplicit false

/-! # How requests reach their handlers

The paths of the endpoints differ, so that a request with the path of an endpoint is answered by
this endpoint (`Service.respond_of_mem`). With the endpoint's own method it is the handler that
answers; behind the guard it does so for the identity that the guard grants, and without one the
fault of the guard is the answer.
-/

namespace SessionAuth

/-- No fault is answered with the status of a success. -/
theorem Response.status_ofFault_ne_ok (f : Fault) : (Response.ofFault f).status ≠ 200 := by
  show f.status ≠ 200
  cases f with
  | invalidCredentials => decide
  | unauthorized => decide
  | invalidRequest detail => exact (by decide : 400 ≠ 200)
  | database cause => exact (by decide : 500 ≠ 200)
  | internal cause => exact (by decide : 500 ≠ 200)

namespace Endpoint

variable {w w' : World} {x : Action Failure Response}

/-! ## Faults as answers -/

theorem run_settle (x : Action Failure Response) (w : World) :
    (settle x).run w =
      match x.run w with
      | (.ok response, w') => (.ok response, w')
      | (.error (.fault f), w') => (.ok (.ofFault f), w')
      | (.error (.overflow o), w') => (.error o, w') := by
  simp only [Action.run]
  show Program.run (ExceptT.run x >>= _) w = _
  rw [Program.run_bind]
  rcases Program.run (ExceptT.run x) w with ⟨(f | o) | response, w'⟩ <;> rfl

theorem run_settle_of_ok {response : Response} (h : x.run w = (.ok response, w')) :
    (settle x).run w = (.ok response, w') := by
  rw [run_settle, h]

/-- An answer is that of the action, or shows the fault that ended it. -/
theorem of_run_settle_eq_ok {response : Response} (h : (settle x).run w = (.ok response, w')) :
    x.run w = (.ok response, w') ∨
      ∃ f, x.run w = (.error (.fault f), w') ∧ response = .ofFault f := by
  rw [run_settle] at h
  rcases hx : x.run w with ⟨(f | o) | r, v⟩
  · rw [hx] at h
    cases h
    exact Or.inr ⟨f, rfl, rfl⟩
  · rw [hx] at h
    cases h
  · rw [hx] at h
    cases h
    exact Or.inl rfl

/-! ## Endpoints with and without the guard -/

variable {e : Endpoint} {s : Service} {r : Request}

theorem respond_of_method (h : r.method = e.verb.label) : e.respond s r = e.serve s r :=
  if_pos h

/-- Without the guard the handler answers for nobody. -/
theorem serve_of_not_guarded (h : e.guarded = false) :
    e.serve s r = settle (e.handler.handle s none r) := by
  have hidentify : e.identify s r = pure none := by simp [identify, h]
  rw [serve, hidentify, pure_bind]

/-- Behind the guard the handler answers for the identity that the guard grants. -/
theorem run_serve_of_identity (h : e.guarded = true) {i : Identity}
    (hrun : (Guard.authenticate s.auth.cookie.name r.headers).run w = (.ok i, w')) :
    (e.serve s r).run w = (settle (e.handler.handle s (some i) r)).run w' := by
  have hidentify : (e.identify s r).run w = (.ok (some i), w') := by
    have hmap : ((Guard.authenticate s.auth.cookie.name r.headers).mapError Failure.fault).run w =
        (.ok i, w') := by
      rw [Action.run_mapError, hrun]
      rfl
    rw [identify, if_pos h, map_eq_pure_bind, Action.run_bind_of_ok hmap]
    rfl
  rw [serve, run_settle, Action.run_bind_of_ok hidentify, run_settle]

end Endpoint

namespace Service

/-- **A request finds its endpoint by its path.** -/
theorem respond_of_mem {s : Service} {r : Request} {e : Endpoint} (he : e ∈ Endpoint.all)
    (hpath : r.path = e.path) : s.respond r = e.respond s r := by
  -- no two endpoints have the same path, so the first one with the path is `e`
  have hfind : ∀ e ∈ Endpoint.all, (Endpoint.all.find? fun f => f.path == e.path) = some e := by
    decide
  rw [respond, respondAt, hpath, hfind e he]

/-- The endpoint for logging in hands a request to the login. -/
theorem respond_login {s : Service} {r : Request} (hmethod : r.method = "POST")
    (hpath : r.path = "/api/v1/auth/login") :
    s.respond r = Endpoint.settle ((s.login r).mapError .fault) := by
  have he : (⟨"/api/v1/auth/login", .post, .login, false⟩ : Endpoint) ∈ Endpoint.all := by
    decide
  rw [respond_of_mem he hpath, Endpoint.respond_of_method hmethod,
    Endpoint.serve_of_not_guarded rfl]
  rfl

/-- A client that the guard knows is told who it is. -/
theorem run_respond_me {s : Service} {r : Request} {w : World} {i : Identity}
    (hmethod : r.method = "GET") (hpath : r.path = "/api/v1/auth/me")
    (hrun : (Guard.authenticate s.auth.cookie.name r.headers).run w = (.ok i, w)) :
    (s.respond r).run w =
      (.ok (Handler.success "Authenticated user" (some (Handler.summary i).toJson)), w) := by
  have he : (⟨"/api/v1/auth/me", .get, .me, true⟩ : Endpoint) ∈ Endpoint.all := by
    decide
  rw [respond_of_mem he hpath, Endpoint.respond_of_method hmethod,
    Endpoint.run_serve_of_identity rfl hrun]
  exact Endpoint.run_settle_of_ok rfl

end Service

end SessionAuth
