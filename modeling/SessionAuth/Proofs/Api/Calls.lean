import SessionAuth.Proofs.Api.Gate

set_option autoImplicit false

/-! # Which store calls a request makes

The store calls of an action come in an order that is laid out in its text: in every run their kinds
are some of a list, in the order of the list (`Action.Asks`), and the lists of the parts add up to
the list of the whole. No kind of call is laid out twice for a request
(`Service.respond_calls_nodup`), so that to say which kinds of calls fail is, for a single request,
to say which calls fail.
-/

namespace SessionAuth

namespace Action

variable {ε δ α β : Type} {kinds kinds' : List StoreCall}

/-- The store calls of a run are of these kinds, in this order, and some may be missing. -/
def Asks (kinds : List StoreCall) (x : Action ε α) : Prop :=
  ∀ w, ((x.calls w).filterMap Call.kind?).Sublist kinds

namespace Asks

theorem mono {x : Action ε α} (hx : x.Asks kinds) (h : kinds.Sublist kinds') : x.Asks kinds' :=
  fun w => (hx w).trans h

theorem of_calls_eq_nil {x : Action ε α} (h : ∀ w, x.calls w = []) : x.Asks [] := by
  intro w
  rw [h w]
  exact .slnil

theorem pure (a : α) : Asks [] (Pure.pure a : Action ε α) := of_calls_eq_nil fun _ => rfl

theorem throw (e : ε) : Asks [] (MonadExcept.throw e : Action ε α) := of_calls_eq_nil fun _ => rfl

theorem ofExcept (r : Except ε α) : Asks [] (ofExcept r) := of_calls_eq_nil fun _ => rfl

theorem now : Asks [] (now : Action ε Instant) := fun _ => .slnil

theorem freshId : Asks [] (freshId : Action ε Uuid) := fun _ => .slnil

/-- A single store call. -/
theorem of_call {x : Action ε α} {c : Call} {k : StoreCall} (hcalls : ∀ w, x.calls w = [c])
    (hk : c.kind? = some k) : x.Asks [k] := by
  intro w
  rw [hcalls w, List.filterMap_cons_some hk]
  exact .refl [k]

theorem findByEmail (email : String) : Asks [.findByEmail] (findByEmail email) :=
  of_call (fun _ => rfl) rfl

theorem findById (id : Uuid) : Asks [.findById] (findById id) := of_call (fun _ => rfl) rfl

theorem listRoles (id : Uuid) : Asks [.listRoles] (listRoles id) := of_call (fun _ => rfl) rfl

theorem createSession (s : Session) : Asks [.createSession] (createSession s) :=
  of_call (fun _ => rfl) rfl

theorem findActiveSession (id : Uuid) : Asks [.findActiveSession] (findActiveSession id) :=
  of_call (fun _ => rfl) rfl

theorem revokeSession (id : Uuid) (stamp : Instant) :
    Asks [.revokeSession] (revokeSession id stamp) :=
  of_call (fun _ => rfl) rfl

theorem mapError {x : Action ε α} (hx : x.Asks kinds) (f : ε → δ) : (x.mapError f).Asks kinds := by
  intro w
  rw [calls_mapError]
  exact hx w

/-- The calls of the first part come first. -/
theorem bind {x : Action ε α} {f : α → Action ε β} (hx : x.Asks kinds)
    (hf : ∀ a, (f a).Asks kinds') : (x >>= f).Asks (kinds ++ kinds') := by
  intro w
  rcases hrun : x.run w with ⟨e | a, v⟩
  · rw [calls_bind_of_error hrun]
    exact (hx w).trans (List.sublist_append_left kinds kinds')
  · rw [calls_bind_of_ok hrun, List.filterMap_append]
    exact (hx w).append (hf a v)

theorem map {x : Action ε α} (hx : x.Asks kinds) (f : α → β) : (f <$> x).Asks kinds := by
  intro w
  rw [calls_map]
  exact hx w

end Asks

end Action

/-! ## The service -/

/-- The guard looks for the session, its owner and the owner's roles. -/
def Guard.kinds : List StoreCall := [.findActiveSession, .findById, .listRoles]

theorem Guard.authenticate_asks (name : String) (hs : Headers) :
    (authenticate name hs).Asks kinds := by
  have hrequire : ∀ {α : Type} (o : Option α), (require o).Asks [] := by
    intro α o
    cases o with
    | none => exact .throw _
    | some a => exact .pure a
  refine .bind (hrequire _) fun id => ?_
  refine .bind (.findActiveSession id) fun found => ?_
  refine .bind (hrequire found) fun row => ?_
  refine .bind (.findById row.userId) fun owner => ?_
  refine .bind (hrequire _) fun user => ?_
  exact .bind (.listRoles user.id) fun roles => .pure _

namespace Service

/-- A login looks for the user and the user's roles, and stores a session. -/
def loginKinds : List StoreCall := [.findByEmail, .listRoles, .createSession]

theorem issueSession_asks (s : Service) (userId : Uuid) (client : Metadata) :
    (s.issueSession userId client).Asks [.createSession] := by
  refine .bind .now fun now => ?_
  cases now.add? s.sessionTtl with
  | none => exact (Action.Asks.throw _).mono (List.nil_sublist _)
  | some expiry => exact .bind .freshId fun id => (Action.Asks.createSession _).mapError _

theorem checkCredentials_asks (s : Service) (email password : String) :
    (s.checkCredentials email password).Asks [.findByEmail] := by
  refine .bind (.findByEmail email) fun found => ?_
  cases found with
  | none => exact .throw _
  | some u =>
      dsimp only
      split
      · exact .pure u
      · exact .throw _

theorem authenticate_asks (s : Service) (email password : String) (client : Metadata) :
    (s.authenticate email password client).Asks loginKinds := by
  unfold authenticate
  dsimp only
  by_cases hblank : Text.trimmed email = "" ∨ password = ""
  · rw [if_pos hblank]
    exact (Action.Asks.throw _).mono (List.nil_sublist _)
  · rw [if_neg hblank]
    refine .bind (s.checkCredentials_asks _ _) fun user => ?_
    refine .bind (.listRoles user.id) fun roles => ?_
    exact .bind (s.issueSession_asks user.id client) fun session => .pure _

theorem login_asks (s : Service) (r : Request) : (s.login r).Asks loginKinds := by
  refine .bind (.ofExcept _) fun login => ?_
  refine .bind (s.authenticate_asks _ _ _) fun granted => ?_
  exact .bind .now fun now => .bind (.ofExcept _) fun cookie => .pure _

end Service

/-- The kinds of store calls that a handler makes. -/
def Handler.kinds : Handler → List StoreCall
  | login => Service.loginKinds
  | logout => [.revokeSession]
  | health | me | sample => []

theorem Handler.handle_asks (s : Service) (who : Option Identity) (r : Request) (h : Handler) :
    (h.handle s who r).Asks h.kinds := by
  cases h with
  | health => exact .pure _
  | login => exact (s.login_asks r).mapError _
  | logout =>
      refine .bind (.ofExcept _) fun i => ?_
      have hrevoke : (Service.logout i.sessionId).Asks [.revokeSession] :=
        .bind .now fun now => (Action.Asks.revokeSession _ now).mapError _
      refine .bind (hrevoke.mapError _) fun _ => ?_
      exact .bind .now fun now => .bind (.ofExcept _) fun cookie => .pure _
  | me => exact .bind (.ofExcept _) fun i => .pure _
  | sample => exact .bind (.ofExcept _) fun i => .pure _

namespace Endpoint

/-- The kinds of store calls for a request to an endpoint, those of the guard first. -/
def kinds (e : Endpoint) : List StoreCall :=
  (if e.guarded then Guard.kinds else []) ++ e.handler.kinds

theorem identify_asks (e : Endpoint) (s : Service) (r : Request) :
    (e.identify s r).Asks (if e.guarded then Guard.kinds else []) := by
  unfold identify
  split
  · exact ((Guard.authenticate_asks _ _).mapError _).map some
  · exact .pure none

theorem settle_asks {x : Action Failure Response} {kinds : List StoreCall} (hx : x.Asks kinds) :
    (settle x).Asks kinds := by
  intro w
  rw [calls_settle]
  exact hx w

theorem respond_asks (e : Endpoint) (s : Service) (r : Request) : (e.respond s r).Asks e.kinds := by
  have hserve : (e.serve s r).Asks e.kinds :=
    settle_asks ((e.identify_asks s r).bind fun who => Handler.handle_asks s who r _)
  have hreject : (e.reject s r).Asks e.kinds := by
    refine .mono (.bind (settle_asks ((e.identify_asks s r).bind fun _ => .pure _))
      fun response => .pure _) ?_
    rw [List.append_nil, List.append_nil]
    exact List.sublist_append_left _ _
  unfold respond
  split
  · exact hserve
  · split
    · exact hserve.map _
    · exact hreject

/-- No endpoint needs a kind of call twice. -/
theorem kinds_nodup : ∀ e ∈ all, e.kinds.Nodup := by
  decide

end Endpoint

/-- **A request makes no two store calls of one kind.** -/
theorem Service.respond_calls_nodup (s : Service) (r : Request) (w : World) :
    (((s.respond r).calls w).filterMap Call.kind?).Nodup := by
  unfold respond respondAt
  cases hfind : Endpoint.all.find? fun e => e.path == r.path with
  | none => exact List.nodup_nil
  | some e =>
      have hnodup := Endpoint.kinds_nodup e (List.mem_of_find?_eq_some hfind)
      exact hnodup.sublist (e.respond_asks s r w)

end SessionAuth
