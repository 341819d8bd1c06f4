import SessionAuth.Proofs.Service.Credentials
import SessionAuth.Proofs.Service.Verdict

set_option autoImplicit false

/-! # Stores that fail

What difference does it make that some of the store calls fail? The world that is *healed* is the
same world with stores that do not. Two things are compared: what an action makes of a world, and
what it makes of the healed one.

As long as no call fails, the two runs go hand in hand, whatever the action is
(`Program.run_healed`). So all depends on the first call that fails, if there is one
(`Action.firstFailure?`). An action *reports* its failures if it ends with the fault of this very
call, possibly renamed. This is again a property that can be read off the parts of an action, and
together with atomicity it makes the action fail closed: `Action.FailsClosed`.
-/

namespace SessionAuth

/-- The kind of a call, if a store is called. -/
def Call.kind? : Call → Option StoreCall
  | .now | .freshId => none
  | .findByEmail _ => some .findByEmail
  | .findById _ => some .findById
  | .listRoles _ => some .listRoles
  | .createSession _ => some .createSession
  | .findActiveSession _ => some .findActiveSession
  | .revokeSession _ _ => some .revokeSession

/-! ## Calls that fail -/

namespace World

/-- The same world with stores that do not fail. -/
def healed (w : World) : World := { w with faults := fun _ => none }

theorem healed_healthy (w : World) : w.healed.Healthy := fun _ => rfl

/-- The kind and the fault of a call, if it fails. -/
def failure? (w : World) (c : Call) : Option (StoreCall × Fault) :=
  c.kind?.bind fun k => (w.faults k).map fun f => (k, f)

theorem failure?_of_kind {w : World} {c : Call} {k : StoreCall} (hk : c.kind? = some k) :
    w.failure? c = (w.faults k).map fun f => (k, f) := by
  rw [failure?, hk, Option.bind_some]

/-- Which calls fail is not changed by a call. -/
theorem failure?_answer (w : World) (c : Call) : (w.answer c).2.failure? = w.failure? := by
  funext c'
  simp only [failure?, (frame_answer w c).2.2]

theorem unlessFaulty_healed {α : Type} {w : World} {k : StoreCall} (hk : w.faults k = none)
    (reply : Except Fault α) (v : World) :
    w.healed.unlessFaulty k (reply, v.healed) =
      ((w.unlessFaulty k (reply, v)).1, (w.unlessFaulty k (reply, v)).2.healed) := by
  rw [unlessFaulty_of_none (w.healed_healthy k), unlessFaulty_of_none hk]

/-- **A call that does not fail does what it does in healthy stores.** -/
theorem answer_healed {w : World} {c : Call} (h : w.failure? c = none) :
    w.healed.answer c = ((w.answer c).1, (w.answer c).2.healed) := by
  have hfaults : ∀ k, c.kind? = some k → w.faults k = none := by
    intro k hk
    rw [failure?_of_kind hk] at h
    exact Option.map_eq_none_iff.1 h
  cases c with
  | now => rfl
  | freshId => rfl
  | findByEmail email => exact unlessFaulty_healed (hfaults _ rfl) _ w
  | findById id => exact unlessFaulty_healed (hfaults _ rfl) _ w
  | listRoles id => exact unlessFaulty_healed (hfaults _ rfl) _ w
  | findActiveSession id => exact unlessFaulty_healed (hfaults _ rfl) _ w
  | revokeSession id stamp =>
      exact unlessFaulty_healed (hfaults _ rfl) _ { w with sessions := w.sessions.revoke id stamp }
  | createSession s =>
      have hsame : w.healed.sessions.create s w.healed.now = w.sessions.create s w.now := rfl
      simp only [answer, hsame]
      -- a row that is in the way is no failure of the call, and is in the way of both
      cases w.sessions.create s w.now with
      | ok r => exact unlessFaulty_healed (hfaults _ rfl) _ { w with sessions := r.2 }
      | error f => exact unlessFaulty_healed (hfaults _ rfl) _ w

end World

/-! ## The calls of a run -/

namespace Program

variable {α β : Type}

/-- The calls that a run makes, in their order. -/
def calls (p : Program α) (w : World) : List Call :=
  match p with
  | done _ => []
  | call c next => c :: (next (w.answer c).1).calls (w.answer c).2

theorem calls_bind (p : Program α) (f : α → Program β) (w : World) :
    (p >>= f).calls w = p.calls w ++ (f (p.run w).1).calls (p.run w).2 := by
  induction p generalizing w with
  | done a => rfl
  | call c next ih => simp only [call_bind, calls, run_call, ih, List.cons_append]

/-- **A run whose calls do not fail is the run in healthy stores.** -/
theorem run_healed (p : Program α) {w : World} (h : ∀ c ∈ p.calls w, w.failure? c = none) :
    p.run w.healed = ((p.run w).1, (p.run w).2.healed) := by
  induction p generalizing w with
  | done a => rfl
  | call c next ih =>
      obtain ⟨hfirst, hrest⟩ := List.forall_mem_cons.1 h
      -- the two runs make the same call and are given the same reply
      rw [run_call, World.answer_healed hfirst]
      refine ih _ fun c' hc' => ?_
      rw [World.failure?_answer]
      exact hrest c' hc'

end Program

namespace Action

variable {ε α β : Type}

/-- The calls that an action makes, in their order. -/
def calls (x : Action ε α) (w : World) : List Call := Program.calls (ExceptT.run x) w

/-- The kind and the fault of the first call that fails, if there is one. -/
def firstFailure? (x : Action ε α) (w : World) : Option (StoreCall × Fault) :=
  (x.calls w).findSome? w.failure?

theorem calls_bind_of_ok {x : Action ε α} {a : α} {w w' : World} (h : x.run w = (.ok a, w'))
    (f : α → Action ε β) : (x >>= f).calls w = x.calls w ++ (f a).calls w' := by
  have hrun : Program.run (ExceptT.run x) w = (.ok a, w') := h
  show Program.calls (ExceptT.run x >>= ExceptT.bindCont f) w = _
  rw [Program.calls_bind, hrun]
  rfl

theorem calls_bind_of_error {x : Action ε α} {e : ε} {w w' : World}
    (h : x.run w = (.error e, w')) (f : α → Action ε β) : (x >>= f).calls w = x.calls w := by
  have hrun : Program.run (ExceptT.run x) w = (.error e, w') := h
  show Program.calls (ExceptT.run x >>= ExceptT.bindCont f) w = _
  rw [Program.calls_bind, hrun]
  exact List.append_nil _

theorem calls_mapError {δ : Type} (f : ε → δ) (x : Action ε α) (w : World) :
    (x.mapError f).calls w = x.calls w := by
  show Program.calls (ExceptT.run x >>= fun r => .done (r.mapError f)) w = _
  rw [Program.calls_bind]
  exact List.append_nil _

/-- An action none of whose calls fails does what it does in healthy stores. -/
theorem run_healed {x : Action ε α} {w : World} (h : x.firstFailure? w = none) :
    x.run w.healed = ((x.run w).1, (x.run w).2.healed) :=
  Program.run_healed (ExceptT.run x) (List.findSome?_eq_none_iff.1 h)

/-! ## Actions that report their failures -/

/-- As soon as a call of the action fails, the action ends with what is reported for its kind and
its fault. -/
def Reports (report : StoreCall → Fault → ε) (x : Action ε α) : Prop :=
  ∀ w k f, x.firstFailure? w = some (k, f) → (x.run w).1 = .error (report k f)

namespace Reports

variable {report : StoreCall → Fault → ε}

/-- An action that makes no call has nothing to report. -/
theorem of_calls_eq_nil {x : Action ε α} (h : ∀ w, x.calls w = []) : x.Reports report := by
  intro w k f hfirst
  rw [firstFailure?, h w] at hfirst
  cases hfirst

theorem pure (a : α) : Reports report (Pure.pure a : Action ε α) := of_calls_eq_nil fun _ => rfl

theorem throw (e : ε) : Reports report (MonadExcept.throw e : Action ε α) :=
  of_calls_eq_nil fun _ => rfl

/-- An action that makes a single call reports it if it does so when the call fails. -/
theorem of_call {x : Action ε α} {c : Call} (hcalls : ∀ w, x.calls w = [c])
    (h : ∀ w k f, c.kind? = some k → w.faults k = some f → (x.run w).1 = .error (report k f)) :
    x.Reports report := by
  intro w k f hfirst
  have hfail : w.failure? c = some (k, f) := by
    rw [firstFailure?, hcalls w, List.findSome?_singleton] at hfirst
    exact hfirst
  obtain ⟨k', hk, hmap⟩ := Option.bind_eq_some_iff.1 hfail
  obtain ⟨f', hf, heq⟩ := Option.map_eq_some_iff.1 hmap
  cases heq
  exact h w k f hk hf

theorem now : Reports report (now : Action ε Instant) :=
  of_call (fun _ => rfl) fun _ _ _ hk => by cases hk

theorem freshId : Reports report (freshId : Action ε Uuid) :=
  of_call (fun _ => rfl) fun _ _ _ hk => by cases hk

/-- What comes after an action has its own failures to report: after a failure it is not reached. -/
theorem bind {x : Action ε α} {g : α → Action ε β} (hx : x.Reports report)
    (hg : ∀ a, (g a).Reports report) : (x >>= g).Reports report := by
  intro w k f hfirst
  rcases hrun : x.run w with ⟨e | a, v⟩
  · -- the action has ended already, so that its failure is the one of the whole
    rw [firstFailure?, calls_bind_of_error hrun] at hfirst
    have hreport := hx w k f hfirst
    rw [hrun] at hreport
    cases hreport
    rw [run_bind_of_error hrun]
  · rw [firstFailure?, calls_bind_of_ok hrun, List.findSome?_append] at hfirst
    have hnone : (x.calls w).findSome? w.failure? = none := by
      cases hsome : (x.calls w).findSome? w.failure? with
      | none => rfl
      | some kf =>
          have hreport := hx w kf.1 kf.2 hsome
          rw [hrun] at hreport
          cases hreport
    rw [hnone, Option.none_or] at hfirst
    have hfaults : v.faults = w.faults := by
      have hframe := (Program.frame_run (ExceptT.run x) w).2.2
      rwa [show Program.run (ExceptT.run x) w = (.ok a, v) from hrun] at hframe
    have hsame : w.failure? = v.failure? := by
      funext c
      rw [World.failure?, World.failure?, hfaults]
    rw [hsame] at hfirst
    rw [run_bind_of_ok hrun]
    exact hg a v k f hfirst

section StoreCalls

variable {r : StoreCall → Fault → Fault} {x : Action Fault α} {c : Call} {k : StoreCall}
  {healthy : World → Except Fault α × World}

/-- A single store call passes its fault on as it is. -/
theorem of_storeCall (hk : c.kind? = some k) (hcalls : ∀ w, x.calls w = [c])
    (hrun : ∀ w, x.run w = w.unlessFaulty k (healthy w)) (h : ∀ f, r k f = f) :
    x.Reports r := by
  refine of_call hcalls fun w k' f hk' hf => ?_
  cases hk.symm.trans hk'
  rw [hrun w, World.unlessFaulty_of_some hf, h f]

/-- A single store call whose faults are renamed passes on the new fault. -/
theorem of_renamed_storeCall (hk : c.kind? = some k) (hcalls : ∀ w, x.calls w = [c])
    (hrun : ∀ w, x.run w = w.unlessFaulty k (healthy w)) {rename : Fault → Fault}
    (h : ∀ f, r k f = rename f) : (x.mapError rename).Reports r := by
  refine of_call (fun w => (calls_mapError rename x w).trans (hcalls w)) fun w k' f hk' hf => ?_
  cases hk.symm.trans hk'
  rw [run_mapError, hrun w, World.unlessFaulty_of_some hf, h f]
  rfl

theorem findByEmail (h : ∀ f, r .findByEmail f = f) (email : String) :
    Reports r (findByEmail email) :=
  of_storeCall rfl (fun _ => rfl) (fun _ => rfl) h

theorem findById (h : ∀ f, r .findById f = f) (id : Uuid) : Reports r (findById id) :=
  of_storeCall rfl (fun _ => rfl) (fun _ => rfl) h

theorem listRoles (h : ∀ f, r .listRoles f = f) (id : Uuid) : Reports r (listRoles id) :=
  of_storeCall rfl (fun _ => rfl) (fun _ => rfl) h

theorem findActiveSession (h : ∀ f, r .findActiveSession f = f) (id : Uuid) :
    Reports r (findActiveSession id) :=
  of_storeCall rfl (fun _ => rfl) (fun _ => rfl) h

theorem createSession {rename : Fault → Fault} (h : ∀ f, r .createSession f = rename f)
    (s : Session) : Reports r ((createSession s).mapError rename) :=
  of_renamed_storeCall rfl (fun _ => rfl) (fun _ => rfl) h

theorem revokeSession {rename : Fault → Fault} (h : ∀ f, r .revokeSession f = rename f)
    (id : Uuid) (stamp : Instant) : Reports r ((revokeSession id stamp).mapError rename) :=
  of_renamed_storeCall rfl (fun _ => rfl) (fun _ => rfl) h

end StoreCalls

end Reports

/-! ## Actions that fail closed -/

/-- What an action makes of a world is compared with what it makes of the healed one. -/
structure FailsClosed (report : StoreCall → Fault → ε) (x : Action ε α) (w : World) : Prop where
  /-- Failures that are not reached make no difference. -/
  undisturbed : x.firstFailure? w = none →
    x.run w.healed = ((x.run w).1, (x.run w).2.healed)
  /-- The first failure that is reached is what the action ends with. -/
  reported : ∀ k f, x.firstFailure? w = some (k, f) → (x.run w).1 = .error (report k f)
  /-- Failures do not turn an error into a success. -/
  closed : ∀ e, (x.run w.healed).1 = .error e → ∃ e', (x.run w).1 = .error e'
  /-- Where failures make a difference, nothing is changed. -/
  traceless : (x.run w).1 ≠ (x.run w.healed).1 →
    (x.run w).2.users = w.users ∧ (x.run w).2.sessions = w.sessions

/-- **An action fails closed if it reports its failures and fails without a trace.** -/
theorem FailsClosed.of_reports {report : StoreCall → Fault → ε} {x : Action ε α}
    (hreports : x.Reports report) (hatomic : x.Atomic) (w : World) : FailsClosed report x w := by
  refine ⟨run_healed, hreports w, fun e he => ?_, fun hdiff => ⟨?_, ?_⟩⟩
  · cases hfirst : x.firstFailure? w with
    | none =>
        rw [run_healed hfirst] at he
        exact ⟨e, he⟩
    | some kf => exact ⟨_, hreports w kf.1 kf.2 hfirst⟩
  · exact (Program.frame_run (ExceptT.run x) w).1
  · -- a difference comes from a failure, and the failure has ended the action
    cases hfirst : x.firstFailure? w with
    | none =>
        rw [run_healed hfirst] at hdiff
        exact absurd rfl hdiff
    | some kf => exact hatomic w _ (hreports w kf.1 kf.2 hfirst)

end Action

/-! ## The guard -/

/-- The guard passes every fault on as it is. -/
theorem Guard.authenticate_reports (name : String) (hs : Headers) :
    (authenticate name hs).Reports fun _ f => f := by
  have hrequire : ∀ {α : Type} (o : Option α), (require o).Reports fun _ f => f := by
    intro α o
    cases o with
    | none => exact .throw _
    | some a => exact .pure a
  refine .bind (hrequire _) fun id => ?_
  refine .bind (.findActiveSession (fun _ => rfl) id) fun found => ?_
  refine .bind (hrequire found) fun row => ?_
  refine .bind (.findById (fun _ => rfl) row.userId) fun owner => ?_
  refine .bind (hrequire _) fun user => ?_
  exact .bind (.listRoles (fun _ => rfl) user.id) fun roles => .pure _

/-! ## Logging in and out -/

/-- The fault says that the machinery is to blame. -/
def Fault.BlamesMachinery (f : Fault) : Prop :=
  ∃ cause, f = .database cause ∨ f = .internal cause

/-- The call changes a store. -/
def StoreCall.writes : StoreCall → Bool
  | createSession | revokeSession => true
  | findByEmail | findById | listRoles | findActiveSession => false

namespace Service

/-- What the service makes of a fault: one that a writing call has failed with is reported as one
of the machinery. -/
def report (k : StoreCall) (f : Fault) : Fault :=
  if k.writes then f.toInternal else f

theorem checkCredentials_reports (s : Service) (email password : String) :
    (s.checkCredentials email password).Reports report := by
  refine .bind (.findByEmail (fun _ => rfl) email) fun found => ?_
  cases found with
  | none => exact .throw _
  | some u =>
      dsimp only
      split
      · exact .pure u
      · exact .throw _

theorem issueSession_reports (s : Service) (userId : Uuid) (client : Metadata) :
    (s.issueSession userId client).Reports report := by
  refine .bind .now fun now => ?_
  cases now.add? s.sessionTtl with
  | none => exact .throw _
  | some expiry => exact .bind .freshId fun id => .createSession (fun _ => rfl) _

theorem authenticate_reports (s : Service) (email password : String) (client : Metadata) :
    (s.authenticate email password client).Reports report := by
  unfold authenticate
  dsimp only
  by_cases hblank : Text.trimmed email = "" ∨ password = ""
  · rw [if_pos hblank]
    exact .throw _
  · rw [if_neg hblank]
    refine .bind (s.checkCredentials_reports _ _) fun user => ?_
    refine .bind (.listRoles (fun _ => rfl) user.id) fun roles => ?_
    exact .bind (s.issueSession_reports user.id client) fun session => .pure _

theorem revoke_reports (id : Uuid) : (revoke id).Reports report :=
  .bind .now fun now => .revokeSession (fun _ => rfl) id now

/-- **What is not revoked is left as it is.** -/
theorem revoke_atomic (id : Uuid) : (revoke id).Atomic :=
  .bind (Action.OnlyLooks.now).keepsLedger fun now =>
    (Action.Atomic.revokeSession id now).mapError Fault.toInternal

/-- The faults of the machinery are reported as they are, whichever call they come from, and so is
every fault of a reading call. -/
theorem report_eq_self {k : StoreCall} {f : Fault}
    (h : k.writes = false ∨ f.BlamesMachinery) : report k f = f := by
  rw [report]
  obtain hk | ⟨cause, rfl | rfl⟩ := h
  · rw [hk]
    rfl
  · exact ite_self _
  · exact ite_self _

/-- Any other fault of a writing call is reported as an internal one that quotes it. -/
theorem report_of_writes {k : StoreCall} {f : Fault} (hk : k.writes = true)
    (hf : ¬ f.BlamesMachinery) : report k f = .internal f.display := by
  rw [report, if_pos hk]
  cases f with
  | database cause => exact absurd ⟨cause, .inl rfl⟩ hf
  | internal cause => exact absurd ⟨cause, .inr rfl⟩ hf
  | invalidCredentials => rfl
  | unauthorized => rfl
  | invalidRequest detail => rfl

/-- **Whatever fails, the service fails closed.** In every world, for every request and however
calls fail:

* the guard, a login and a logout end as they would in healthy stores, or with the fault of the
  first call that fails; no error becomes a success, and where the result is not that of healthy
  stores nothing is changed (`Action.FailsClosed`);
* the guard passes the fault on untouched;
* the service does so too, with the exception of faults that do not blame the machinery though
  they come from one of the two writing calls: these become internal ones. -/
theorem fails_closed (w : World) :
    (∀ name hs, (Guard.authenticate name hs).FailsClosed (fun _ f => f) w) ∧
    (∀ (s : Service) email password client,
      (s.authenticate email password client).FailsClosed report w) ∧
    (∀ id, (revoke id).FailsClosed report w) ∧
    (∀ (k : StoreCall) f, (k ≠ .createSession ∧ k ≠ .revokeSession) ∨ f.BlamesMachinery →
      report k f = f) ∧
    (∀ (k : StoreCall) f, k = .createSession ∨ k = .revokeSession → ¬ f.BlamesMachinery →
      report k f = .internal f.display) := by
  refine ⟨fun name hs => ?_, fun s email password client => ?_, fun id => ?_, ?_, ?_⟩
  · have hatomic := Action.Atomic.of_keepsLedger (Guard.authenticate_onlyLooks name hs).keepsLedger
    exact .of_reports (Guard.authenticate_reports name hs) hatomic w
  · exact .of_reports (s.authenticate_reports email password client)
      (s.authenticate_atomic email password client) w
  · exact .of_reports (revoke_reports id) (revoke_atomic id) w
  · intro k f h
    refine report_eq_self (h.imp_left fun hk => ?_)
    cases k with
    | createSession => exact absurd rfl hk.1
    | revokeSession => exact absurd rfl hk.2
    | _ => rfl
  · intro k f hk hf
    refine report_of_writes ?_ hf
    obtain rfl | rfl := hk
    · rfl
    · rfl

/-- A guard that is shown an active session runs into a store that cannot find users, but not into
one that cannot create sessions. -/
example :
    let reach := fun k => ((Guard.authenticate "session_id" [⟨"Cookie", Text.utf8
      "session_id=00000000-0000-0000-0000-000000000005"⟩]).firstFailure?
        { World.small with faults := fun k' => if k = k' then some .unauthorized else none })
    reach .findById = some (.findById, .unauthorized) ∧ reach .createSession = none := by
  decide

end Service

end SessionAuth
