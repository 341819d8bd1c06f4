import SessionAuth.Proofs.Api.Attempt
import SessionAuth.Proofs.Service.Verdict

set_option autoImplicit false

/-! # What a request can write

Whatever a request asks for, under whatever method and path, it can do one of two things to the
stores: a login adds one row under an identifier that was free, and a logout revokes one row, the
one that the guard finds for this same request. All other rows stay as they are, and so do the
users: `Service.respond_confined`.

The guard reads of the ledger only the row whose identifier is presented to it
(`Guard.fst_run_authenticate_congr`), so that its verdict on any other session is the same before
and after.
-/

namespace SessionAuth

/-! ## Changes of one row -/

namespace Ledger

/-- The ledger has grown by one row, under an identifier that was free. -/
structure Grows (l l' : Ledger) (session : Session) : Prop where
  free : l.get? session.id = none
  rows : l'.rows = l.rows ++ [session]

/-- One row that was not revoked has been revoked, and no other row has changed. -/
structure RevokesOne (l l' : Ledger) (row : Session) (stamp : Instant) : Prop where
  stored : l.get? row.id = some row
  unrevoked : row.revokedAt = none
  revoked : l'.get? row.id = some { row with revokedAt := some stamp }
  others : ∀ id, id ≠ row.id → l'.get? id = l.get? id
  size : l'.size = l.size

variable {l : Ledger}

theorem grows_put {session : Session} (h : l.get? session.id = none) :
    l.Grows (l.put session) session :=
  ⟨h, Table.rows_put_of_get?_eq_none h⟩

theorem revokesOne_revoke {row : Session} (hrow : l.get? row.id = some row)
    (hunrevoked : row.revokedAt = none) (stamp : Instant) :
    l.RevokesOne (l.revoke row.id stamp) row stamp := by
  have hrevoke : l.revoke row.id stamp = l.put { row with revokedAt := some stamp } := by
    simp [revoke, hrow, Session.isRevoked, hunrevoked]
  rw [hrevoke]
  exact {
    stored := hrow
    unrevoked := hunrevoked
    revoked := Table.get?_put_self l { row with revokedAt := some stamp }
    others := fun id hid =>
      Table.get?_put_of_ne l (x := { row with revokedAt := some stamp }) (Ne.symm hid)
    size := Table.size_put_of_get?_eq_some (x := { row with revokedAt := some stamp }) hrow }

/-- A row that is there stays as it is when another one is added. -/
theorem Grows.get?_of_stored {l' : Ledger} {session row : Session} {id : Uuid}
    (h : l.Grows l' session) (hrow : l.get? id = some row) : l'.get? id = some row := by
  have hfind : l.rows.find? (fun s => s.id = id) = some row := hrow
  show l'.rows.find? (fun s => s.id = id) = some row
  rw [h.rows, List.find?_append, hfind]
  rfl

end Ledger

/-! ## The guard sees one row -/

namespace Guard

variable {v w : World} {id : Uuid}

/-- Two worlds in which the guard sees the same when it is presented an identifier. -/
structure Agree (v w : World) (id : Uuid) : Prop where
  row : v.sessions.get? id = w.sessions.get? id
  users : v.users = w.users
  now : v.now = w.now
  faults : v.faults = w.faults

/-- A store call that would do the same in both worlds has the same reply in both. -/
theorem fst_unlessFaulty (h : Agree v w id) {α : Type} (k : StoreCall) {a b : Except Fault α}
    (hsame : a = b) : (v.unlessFaulty k (a, v)).1 = (w.unlessFaulty k (b, w)).1 := by
  rw [World.unlessFaulty, World.unlessFaulty, h.faults, hsame]
  cases w.faults k with
  | none => rfl
  | some f => rfl

theorem fst_run_findActiveSession (h : Agree v w id) :
    ((Action.findActiveSession id).run v).1 = ((Action.findActiveSession id).run w).1 := by
  have hfound : v.sessions.findActive id v.now = w.sessions.findActive id w.now := by
    rw [Ledger.findActive, Ledger.findActive, h.row, h.now]
  exact fst_unlessFaulty h .findActiveSession (congrArg Except.ok hfound)

theorem fst_run_findById (h : Agree v w id) (userId : Uuid) :
    ((Action.findById userId).run v).1 = ((Action.findById userId).run w).1 := by
  have hfound : v.users.findById userId = w.users.findById userId := by
    rw [h.users]
  exact fst_unlessFaulty h .findById (congrArg Except.ok hfound)

theorem fst_run_listRoles (h : Agree v w id) (userId : Uuid) :
    ((Action.listRoles userId).run v).1 = ((Action.listRoles userId).run w).1 := by
  have hroles : v.users.rolesOf userId = w.users.rolesOf userId := by
    rw [h.users]
  exact fst_unlessFaulty h .listRoles (congrArg Except.ok hroles)

theorem fst_run_require {α : Type} (o : Option α) (v w : World) :
    ((require o).run v).1 = ((require o).run w).1 := by
  cases o with
  | none => rfl
  | some a => rfl

theorem fst_run_resolve (h : Agree v w id) :
    ((resolve id).run v).1 = ((resolve id).run w).1 := by
  unfold resolve
  refine Action.OnlyLooks.fst_run_bind (.findActiveSession id) (fst_run_findActiveSession h)
    fun found => ?_
  refine Action.OnlyLooks.fst_run_bind (require_onlyLooks found) (fst_run_require found v w)
    fun row => ?_
  refine Action.OnlyLooks.fst_run_bind (.findById row.userId) (fst_run_findById h row.userId)
    fun owner => ?_
  refine Action.OnlyLooks.fst_run_bind (require_onlyLooks _) (fst_run_require _ v w) fun user => ?_
  exact Action.OnlyLooks.fst_run_bind (.listRoles user.id) (fst_run_listRoles h user.id)
    fun roles => rfl

/-- **The guard decides by the one row whose identifier is presented**, besides the users, the clock
and the faults of the stores. -/
theorem fst_run_authenticate_congr {name : String} {hs : Headers}
    (hid : presented? name hs = some id) (h : Agree v w id) :
    ((authenticate name hs).run v).1 = ((authenticate name hs).run w).1 := by
  rw [run_authenticate_of_presented hid, run_authenticate_of_presented hid]
  exact fst_run_resolve h

end Guard

/-! ## What the endpoints write -/

namespace Endpoint

variable {s : Service} {r : Request} {w : World}

/-- Turning faults into answers writes nothing. -/
theorem snd_run_settle (x : Action Failure Response) (w : World) :
    ((settle x).run w).2 = (x.run w).2 := by
  rw [run_settle]
  rcases x.run w with ⟨(f | o) | response, w'⟩
  · rfl
  · rfl
  · rfl

theorem identify_onlyLooks (e : Endpoint) (s : Service) (r : Request) :
    (e.identify s r).OnlyLooks := by
  unfold identify
  split
  · rw [map_eq_pure_bind]
    exact .bind ((Guard.authenticate_onlyLooks _ _).mapError _) fun i => .pure _
  · exact .pure none

/-- An endpoint writes what its handler writes for the identity that has been found, or nothing. -/
theorem snd_run_serve (e : Endpoint) (s : Service) (r : Request) (w : World) :
    ((e.serve s r).run w).2 = w ∨
      ∃ who, ((e.identify s r).run w).1 = .ok who ∧
        ((e.serve s r).run w).2 = ((e.handler.handle s who r).run w).2 := by
  have hlooks := e.identify_onlyLooks s r w
  rw [serve, snd_run_settle]
  rcases hrun : (e.identify s r).run w with ⟨f | who, v⟩
  · rw [hrun] at hlooks
    rw [Action.run_bind_of_error hrun]
    exact Or.inl hlooks
  · rw [hrun] at hlooks
    rw [Action.run_bind_of_ok hrun, show v = w from hlooks]
    exact Or.inr ⟨who, rfl, rfl⟩

/-- A refused method writes nothing. -/
theorem snd_run_reject (e : Endpoint) (s : Service) (r : Request) (w : World) :
    ((e.reject s r).run w).2 = w := by
  have hlooks : (e.identify s r >>= fun _ =>
      (Pure.pure { status := 405 } : Action Failure Response)).OnlyLooks :=
    .bind (e.identify_onlyLooks s r) fun _ => .pure _
  have hsettle : (settle (e.identify s r >>= fun _ => Pure.pure { status := 405 })).OnlyLooks :=
    fun v => (snd_run_settle _ v).trans (hlooks v)
  have hreject : (e.reject s r).OnlyLooks := .bind hsettle fun response => .pure _
  exact hreject w

/-- A request writes nothing at an endpoint unless it has the endpoint's method, or the endpoint is
for `GET`; then it writes what the handler writes. -/
theorem snd_run_respond (e : Endpoint) (s : Service) (r : Request) (w : World) :
    ((e.respond s r).run w).2 = w ∨
      ∃ who, (r.method = e.verb.label ∨ e.verb = .get) ∧
        ((e.identify s r).run w).1 = .ok who ∧
        ((e.respond s r).run w).2 = ((e.handler.handle s who r).run w).2 := by
  unfold respond
  by_cases hmethod : r.method = e.verb.label
  · rw [if_pos hmethod]
    rcases e.snd_run_serve s r w with hsame | ⟨who, hwho, hwrites⟩
    · exact Or.inl hsame
    · exact Or.inr ⟨who, Or.inl hmethod, hwho, hwrites⟩
  · rw [if_neg hmethod]
    by_cases hhead : r.method = "HEAD" ∧ e.verb = .get
    · rw [if_pos hhead]
      have hbody : ((Response.withoutBody <$> e.serve s r).run w).2 = ((e.serve s r).run w).2 := by
        rw [map_eq_pure_bind]
        exact Action.OnlyLooks.snd_run_bind (fun response => .pure _) _ w
      rw [hbody]
      rcases e.snd_run_serve s r w with hsame | ⟨who, hwho, hwrites⟩
      · exact Or.inl hsame
      · exact Or.inr ⟨who, Or.inr hhead.2, hwho, hwrites⟩
    · rw [if_neg hhead]
      exact Or.inl (e.snd_run_reject s r w)

/-- An endpoint behind the guard has found an identity that the guard has granted. -/
theorem of_run_identify_eq_ok {e : Endpoint} (he : e.guarded = true) {who : Option Identity}
    (h : ((e.identify s r).run w).1 = .ok who) :
    ∃ i, who = some i ∧
      ((Guard.authenticate s.auth.cookie.name r.headers).run w).1 = .ok i := by
  rw [identify, if_pos he, map_eq_pure_bind] at h
  obtain ⟨i, v, hrun, hpure⟩ := Action.of_run_bind_eq_ok (Prod.ext h rfl)
  cases hpure
  exact ⟨i, rfl, congrArg Prod.fst (Action.of_run_mapError_eq_ok hrun)⟩

end Endpoint

/-- Revoking a session writes only that, or nothing if the store fails. -/
theorem Service.snd_run_revoke (id : Uuid) (w : World) :
    ((Service.revoke id).run w).2 = w ∨
      ((Service.revoke id).run w).2 = { w with sessions := w.sessions.revoke id w.now } := by
  rw [Service.revoke, Action.run_bind_of_ok (Action.run_now w), Action.run_mapError]
  show (w.unlessFaulty .revokeSession _).2 = w ∨ (w.unlessFaulty .revokeSession _).2 = _
  cases hk : w.faults .revokeSession with
  | none =>
      rw [World.unlessFaulty_of_none hk]
      exact Or.inr rfl
  | some f =>
      rw [World.unlessFaulty_of_some hk]
      exact Or.inl rfl

namespace Handler

variable {s : Service} {w : World}

theorem health_onlyLooks (s : Service) (who : Option Identity) (r : Request) :
    (health.handle s who r).OnlyLooks := .pure _

theorem me_onlyLooks (s : Service) (who : Option Identity) (r : Request) :
    (me.handle s who r).OnlyLooks := .bind (.ofExcept _) fun _ => .pure _

theorem sample_onlyLooks (s : Service) (who : Option Identity) (r : Request) :
    (sample.handle s who r).OnlyLooks := .bind (.ofExcept _) fun _ => .pure _

/-- Signing out writes what revoking the session of the identity writes. -/
theorem snd_run_signOut (s : Service) (i : Identity) (w : World) :
    ((signOut s i).run w).2 = ((Service.revoke i.sessionId).run w).2 := by
  have hlooks : ∀ u : Unit, (Action.now >>= fun now =>
      Action.ofExcept (s.auth.cookie.clear now) >>= fun cookie =>
        (Pure.pure ((success "Logout successful" none).withHeader "set-cookie" cookie) :
          Action Failure Response)).OnlyLooks :=
    fun u => .bind .now fun now => .bind (.ofExcept _) fun cookie => .pure _
  exact (Action.OnlyLooks.snd_run_bind hlooks _ w).trans
    (congrArg Prod.snd (Action.run_mapError _ _ w))

end Handler

/-! ## What a request writes -/

namespace Service

variable {s : Service} {r : Request} {w : World}

/-- What a request may make of the ledger. -/
inductive Writes (s : Service) (r : Request) (w : World) (l : Ledger) : Prop
  | nothing (same : l = w.sessions)
  /-- Logging in adds a session. -/
  | session (method : r.method = "POST") (path : r.path = "/api/v1/auth/login")
      (session : Session) (grows : w.sessions.Grows l session)
  /-- Logging out revokes the session that the guard finds for the request. -/
  | revocation (method : r.method = "POST") (path : r.path = "/api/v1/auth/logout")
      (i : Identity) (passes : ((Guard.authenticate s.auth.cookie.name r.headers).run w).1 = .ok i)
      (row : Session) (found : row.id = i.sessionId)
      (revokes : w.sessions.RevokesOne l row w.now)

/-- A request writes nothing, or what the handler of the endpoint with its path writes. -/
theorem snd_run_respond (s : Service) (r : Request) (w : World) :
    ((s.respond r).run w).2 = w ∨
      ∃ e ∈ Endpoint.all, r.path = e.path ∧ ∃ who, (r.method = e.verb.label ∨ e.verb = .get) ∧
        ((e.identify s r).run w).1 = .ok who ∧
        ((s.respond r).run w).2 = ((e.handler.handle s who r).run w).2 := by
  by_cases hpath : ∃ e ∈ Endpoint.all, r.path = e.path
  · obtain ⟨e, he, hpath⟩ := hpath
    rw [respond_of_mem he hpath]
    rcases e.snd_run_respond s r w with hsame | hwrites
    · exact Or.inl hsame
    · exact Or.inr ⟨e, he, hpath, hwrites⟩
  · have hnone : (Endpoint.all.find? fun e => e.path == r.path) = none := by
      refine List.find?_eq_none.2 fun e he hsame => hpath ⟨e, he, ?_⟩
      exact (eq_of_beq hsame).symm
    rw [respond, respondAt, hnone]
    exact Or.inl rfl

/-- A login adds at most one session. -/
theorem writes_of_login (hmethod : r.method = "POST") (hpath : r.path = "/api/v1/auth/login") :
    Writes s r w ((s.login r).run w).2.sessions := by
  rcases run_login_cases s r w with ⟨f, w', hrun, hkept⟩ | ⟨user, session, w', hlets, -, -, hrun⟩
  · rw [hrun]
    exact .nothing hkept
  · rw [hrun]
    show Writes s r w w'.sessions
    rw [hlets.stored]
    exact .session hmethod hpath session (Ledger.grows_put hlets.free)

/-- A logout revokes at most the session that the guard finds. -/
theorem writes_of_signOut (hmethod : r.method = "POST") (hpath : r.path = "/api/v1/auth/logout")
    {i : Identity} (hpasses : ((Guard.authenticate s.auth.cookie.name r.headers).run w).1 = .ok i) :
    Writes s r w ((Handler.signOut s i).run w).2.sessions := by
  obtain ⟨id, hid⟩ := Guard.exists_presented_of_passes hpasses
  obtain ⟨-, row, owner, hvouches, rfl⟩ := (Guard.authenticate_succeeds_iff hid i).1 hpasses
  -- the guard has vouched for this very row: it is stored and has not been revoked
  have hkey : row.id = id := Table.key_of_get? hvouches.stored
  have hstored : w.sessions.get? row.id = some row := by
    rw [hkey]
    exact hvouches.stored
  rw [Handler.snd_run_signOut]
  rcases snd_run_revoke row.id w with hsame | hrevoked
  · refine .nothing ?_
    show ((revoke row.id).run w).2.sessions = w.sessions
    rw [hsame]
  · refine .revocation hmethod hpath _ hpasses row rfl ?_
    show w.sessions.RevokesOne ((revoke row.id).run w).2.sessions row w.now
    rw [hrevoked]
    exact Ledger.revokesOne_revoke hstored hvouches.unrevoked w.now

/-- Whatever a request asks for, that is all it writes into the ledger. -/
theorem writes_of_respond (s : Service) (r : Request) (w : World) :
    Writes s r w ((s.respond r).run w).2.sessions := by
  rcases snd_run_respond s r w with hsame | ⟨e, he, hpath, who, hmethod, hwho, hwrites⟩
  · rw [hsame]
    exact .nothing rfl
  · have hnothing : (e.handler.handle s who r).OnlyLooks →
        Writes s r w ((s.respond r).run w).2.sessions := by
      intro hlooks
      rw [hwrites, hlooks w]
      exact .nothing rfl
    have hposts : e.verb = .post → r.method = "POST" := by
      intro hpost
      rcases hmethod with hlabel | hget
      · rw [hlabel, hpost]
        rfl
      · rw [hpost] at hget
        cases hget
    -- one case for each endpoint
    simp only [Endpoint.all, List.mem_cons, List.not_mem_nil, or_false] at he
    rcases he with rfl | rfl | rfl | rfl | rfl
    · exact hnothing (Handler.health_onlyLooks s who r)
    · rw [hwrites]
      show Writes s r w (((s.login r).mapError Failure.fault).run w).2.sessions
      rw [Action.run_mapError]
      exact writes_of_login (hposts rfl) hpath
    · obtain ⟨i, rfl, hpasses⟩ := Endpoint.of_run_identify_eq_ok rfl hwho
      rw [hwrites]
      exact writes_of_signOut (hposts rfl) hpath hpasses
    · exact hnothing (Handler.me_onlyLooks s who r)
    · exact hnothing (Handler.sample_onlyLooks s who r)

/-- What a request writes leaves all rows that are stored as they are, but for the session that it
logs out. -/
theorem Writes.get?_of_stored {l : Ledger} (h : Writes s r w l) {id : Uuid} {row : Session}
    (hrow : w.sessions.get? id = some row)
    (hother : ∀ i, r.method = "POST" → r.path = "/api/v1/auth/logout" →
      ((Guard.authenticate s.auth.cookie.name r.headers).run w).1 = .ok i → i.sessionId ≠ id) :
    l.get? id = some row := by
  cases h with
  | nothing same => rw [same, hrow]
  | session method path session grows => exact grows.get?_of_stored hrow
  | revocation method path i passes revoked found revokes =>
      have hne : id ≠ revoked.id := by
        rw [found]
        exact (hother i method path passes).symm
      rw [revokes.others id hne, hrow]

/-- **What a request can write.** Whatever request is handled in whatever world,

* the users stay as they are,
* the ledger stays as it is, or it gains one session by a login, or one session of it is revoked as
  of now by a logout, which is the session that the guard finds for this request,
* every other session that is stored is to the guard, whoever presents it, what it was before. -/
theorem respond_confined (s : Service) (r : Request) (w : World) :
    ((s.respond r).run w).2.users = w.users ∧ Writes s r w ((s.respond r).run w).2.sessions ∧
      ∀ name hs id row, Guard.presented? name hs = some id → w.sessions.get? id = some row →
        (∀ i, r.method = "POST" → r.path = "/api/v1/auth/logout" →
          ((Guard.authenticate s.auth.cookie.name r.headers).run w).1 = .ok i →
            i.sessionId ≠ id) →
        ((Guard.authenticate name hs).run ((s.respond r).run w).2).1 =
          ((Guard.authenticate name hs).run w).1 := by
  obtain ⟨husers, hnow, hfaults⟩ := Program.frame_run (ExceptT.run (s.respond r)) w
  have hwrites := writes_of_respond s r w
  refine ⟨husers, hwrites, fun name hs id row hid hrow hother => ?_⟩
  -- the row is the same, and all else that the guard looks at is beyond the reach of a run
  have hsame := hwrites.get?_of_stored hrow hother
  exact Guard.fst_run_authenticate_congr hid ⟨hsame.trans hrow.symm, husers, hnow, hfaults⟩

/-- The user of the small world has a second session. -/
def secondStay : Session := { World.stay with id := .ofNat 6 }

/-- The small world with both sessions. -/
def twoStays : World := World.small.after (.call (.createSession secondStay))

/-- The user logs out of the first session; the body names the second one. -/
def lodgerLogout : Request where
  method := "POST"
  target := "/api/v1/auth/logout"
  headers := [⟨"Cookie", Text.utf8 "session_id=00000000-0000-0000-0000-000000000005"⟩]
  body := Text.utf8 "\x7b\"session_id\": \"00000000-0000-0000-0000-000000000006\"\x7d"

/-- The first session is revoked, and the second one is to the guard what it was. -/
theorem respond_confined_small :
    ((plain.respond lodgerLogout).run twoStays).2.sessions.get? World.stay.id =
        some { World.stay with revokedAt := some .epoch } ∧
      ((Guard.authenticate "session_id" [⟨"Cookie", Text.utf8
        "session_id=00000000-0000-0000-0000-000000000006"⟩]).run
          ((plain.respond lodgerLogout).run twoStays).2).1 =
        .ok ⟨World.lodger.id, "a@b.com", ["user"], secondStay.id⟩ := by
  have hfirst : ((Guard.authenticate plain.auth.cookie.name lodgerLogout.headers).run twoStays).1 =
      .ok ⟨World.lodger.id, "a@b.com", ["user"], World.stay.id⟩ := by
    decide +kernel
  have hsecond : ((Guard.authenticate "session_id" [⟨"Cookie", Text.utf8
      "session_id=00000000-0000-0000-0000-000000000006"⟩]).run twoStays).1 =
        .ok ⟨World.lodger.id, "a@b.com", ["user"], secondStay.id⟩ := by
    decide +kernel
  refine ⟨by decide +kernel, ?_⟩
  refine ((respond_confined plain lodgerLogout twoStays).2.2 _ _ secondStay.id secondStay
    (by decide +kernel) (by decide) ?_).trans hsecond
  intro i hmethod hpath hi
  cases hfirst.symm.trans hi
  decide

end Service

end SessionAuth
