import SessionAuth.Proofs.Api.Authentication
import SessionAuth.Proofs.Time.Range

set_option autoImplicit false

/-! # Sessions at the end of the calendar

Before a session is issued its expiry is added up, only to see whether it is on the calendar; when
the session is made it is added up again, and this time an expiry off the calendar would abandon the
work. Written down in this way (`Service.issueByAddition`), logging in is the same program as the
one that keeps the expiry it has checked (`Service.authenticateByAddition_eq`), and so nothing is
ever abandoned. Neither is it when the lifetime of a session is measured for its cookie, at whatever
moment (`CookieSettings.issueMeasured?_eq`).

What becomes of a login is decided by the count of nanoseconds at which the session would expire:
`Service.issuance_at_calendarEnd`.
-/

namespace SessionAuth

namespace Action

variable {ε δ α β : Type}

theorem mapError_now (f : ε → δ) : (now : Action ε Instant).mapError f = now := rfl

theorem mapError_freshId (f : ε → δ) : (freshId : Action ε Uuid).mapError f = freshId := rfl

/-- Renaming the breaks of a plan renames those of its parts. -/
theorem mapError_bind (f : ε → δ) (x : Action ε α) (g : α → Action ε β) :
    (x >>= g).mapError f = x.mapError f >>= fun a => (g a).mapError f := by
  show ExceptT.mk ((ExceptT.run x >>= ExceptT.bindCont g) >>= fun r => .done (r.mapError f)) =
    ExceptT.mk ((ExceptT.run x >>= fun r => .done (r.mapError f)) >>=
      ExceptT.bindCont fun a => (g a).mapError f)
  rw [Program.bind_assoc, Program.bind_assoc]
  congr 2
  funext r
  cases r with
  | ok a => rfl
  | error e => rfl

theorem mapError_mapError {γ : Type} (f : ε → δ) (g : δ → γ) (x : Action ε α) :
    (x.mapError f).mapError g = x.mapError fun e => g (f e) := by
  show ExceptT.mk ((ExceptT.run x >>= fun r => .done (r.mapError f)) >>= fun r =>
      .done (r.mapError g)) =
    ExceptT.mk (ExceptT.run x >>= fun r => .done (r.mapError fun e => g (f e)))
  rw [Program.bind_assoc]
  congr 2
  funext r
  cases r with
  | ok a => rfl
  | error e => rfl

end Action

namespace CookieSettings

/-- The cookie that hands out a session, if there is room for its lifetime at each step of measuring
it. -/
def issueMeasured? (c : CookieSettings) (session : Session) (now : Instant) :
    Option (Except Fault String) :=
  (session.expiresAt.measured? now).map fun left =>
    c.write session.id.text session.expiresAt (max 0 left.seconds)

/-- **There is always room for the lifetime of a session**, at whatever moment it is measured. -/
theorem issueMeasured?_eq (c : CookieSettings) (session : Session) (now : Instant) :
    c.issueMeasured? session now = some (c.issue session now) := by
  rw [issueMeasured?, Instant.measured?_eq_since]
  rfl

end CookieSettings

namespace Service

variable {s : Service} {w w' : World} {email password : String}

/-- Stores a new session for a user, the expiry being checked first and added up again when an
identifier has been drawn. -/
def issueByAddition (s : Service) (userId : Uuid) (client : Metadata) : Action Failure Session := do
  let now ← Action.now
  if now.add? s.sessionTtl = none then throw (.fault s.offCalendarFault)
  let id ← Action.freshId
  let session ← Action.ofExcept <|
    (Session.start id userId now s.sessionTtl).mapError Failure.overflow
  (Action.createSession (session.withClient client.normalized)).mapError fun f =>
    .fault f.toInternal

/-- The user with these credentials, with roles, and a new session, its expiry added up twice. -/
def authenticateByAddition (s : Service) (email password : String) (client : Metadata) :
    Action Failure (User × Session) := do
  let email := Text.trimmed email
  if email = "" ∨ password = "" then throw (.fault .invalidCredentials)
  let user ← (s.checkCredentials email password).mapError .fault
  let roles ← (Action.listRoles user.id).mapError .fault
  let session ← s.issueByAddition user.id client
  return ({ user with roles }, session)

/-- **The second addition never fails**, for it adds to the same reading of the clock. -/
theorem issueByAddition_eq (s : Service) (userId : Uuid) (client : Metadata) :
    s.issueByAddition userId client = (s.issueSession userId client).mapError Failure.fault := by
  unfold issueByAddition issueSession
  rw [Action.mapError_bind, Action.mapError_now]
  congr 1
  funext now
  cases hexpiry : now.add? s.sessionTtl with
  | none => rfl
  | some expiry =>
      have hstart : ∀ id, Session.start id userId now s.sessionTtl =
          .ok (Session.fresh id userId now expiry) := fun id => by
        rw [Session.start, hexpiry]
      simp only [hstart, reduceCtorEq, if_false]
      rw [Action.mapError_bind, Action.mapError_freshId]
      congr 1
      funext id
      exact (Action.mapError_mapError Fault.toInternal Failure.fault _).symm

theorem authenticateByAddition_eq (s : Service) (email password : String) (client : Metadata) :
    s.authenticateByAddition email password client =
      (s.authenticate email password client).mapError Failure.fault := by
  unfold authenticateByAddition authenticate
  dsimp only
  split
  · rfl
  · rw [Action.mapError_bind]
    congr 1
    funext user
    rw [Action.mapError_bind]
    congr 1
    funext roles
    rw [Action.mapError_bind, issueByAddition_eq]
    rfl

/-- A session under an identifier that is taken is not stored. -/
theorem run_createSession_of_taken (hw : w.faults .createSession = none) {session row : Session}
    (htaken : w.sessions.get? session.id = some row) :
    (Action.createSession session).run w = (.error (.database "Session already exists"), w) := by
  refine (World.unlessFaulty_of_none hw _).trans ?_
  rw [Ledger.create_of_get?_eq_some htaken]

/-- No session is issued under an identifier that is taken; the identifier has been drawn. -/
theorem run_issueSession_of_taken (hw : w.faults .createSession = none) {expiry : Instant}
    (hexpiry : w.now.add? s.sessionTtl = some expiry) {row : Session}
    (htaken : w.sessions.get? w.ids.next.1 = some row) (userId : Uuid) (client : Metadata) :
    (s.issueSession userId client).run w =
      (.error (.database "Session already exists"), { w with ids := w.ids.next.2 }) := by
  have hcreate : (Action.createSession (issued w userId expiry client)).run
      { w with ids := w.ids.next.2 } =
        (.error (.database "Session already exists"), { w with ids := w.ids.next.2 }) :=
    run_createSession_of_taken (w := { w with ids := w.ids.next.2 }) hw htaken
  rw [issueSession, Action.run_bind_of_ok (Action.run_now w)]
  simp only [hexpiry]
  rw [Action.run_bind_of_ok (Action.run_freshId w)]
  show ((Action.createSession (issued w userId expiry client)).mapError Fault.toInternal).run
    { w with ids := w.ids.next.2 } = _
  rw [Action.run_mapError, hcreate]
  rfl

/-- **Sessions at the end of the calendar.** For all credentials, whatever the world, logging in
does the same if the expiry is added up twice, so that no overflow comes of it; and a cookie can be
made for every session at every moment, before its expiry or after. In a healthy world, of
credentials that are admitted,

* if the present and the lifetime of sessions together reach the end of the calendar, the attempt
  ends in an internal fault and nothing has changed, nor has an identifier been drawn,
* otherwise the session expires at the instant with exactly that count, and it is stored, or its
  identifier is taken and the ledger stays as it is. -/
theorem issuance_at_calendarEnd (hhealthy : w.Healthy) {u : User}
    (hblank : ¬ (Text.trimmed email = "" ∨ password = ""))
    (hadmits : s.Admits w (Text.trimmed email) password u) (client : Metadata) :
    (Instant.calendarEnd ≤ w.now.count + s.sessionTtl.nanos →
      (s.authenticate email password client).run w =
        (.error (.internal
          ("session ttl " ++ s.sessionTtl.text ++ " overflows the expiry timestamp")), w)) ∧
    (w.now.count + s.sessionTtl.nanos < Instant.calendarEnd →
      ∃ expiry, w.now.add? s.sessionTtl = some expiry ∧
        expiry.count = w.now.count + s.sessionTtl.nanos ∧
        (w.sessions.get? w.ids.next.1 = none →
          ∃ user session w', (s.authenticate email password client).run w =
              (.ok (user, session), w') ∧
            session.expiresAt = expiry ∧ w'.sessions.rows = w.sessions.rows ++ [session]) ∧
        (∀ row, w.sessions.get? w.ids.next.1 = some row →
          (s.authenticate email password client).run w =
            (.error (.database "Session already exists"), { w with ids := w.ids.next.2 }))) ∧
    (∀ email password client, s.authenticateByAddition email password client =
      (s.authenticate email password client).mapError Failure.fault) ∧
    ∀ (c : CookieSettings) (session : Session) (now : Instant),
      c.issueMeasured? session now = some (c.issue session now) := by
  refine ⟨fun hend => ?_, fun hend => ?_, s.authenticateByAddition_eq,
    CookieSettings.issueMeasured?_eq⟩
  · have hexpiry := (Instant.add?_eq_none_iff s.sessionTtl_pos).2 hend
    have hissue := run_issueSession_of_off_calendar hexpiry u.id client
    exact run_authenticate_of_unissued hhealthy hblank hadmits hissue
  · have hsome : w.now.add? s.sessionTtl ≠ none := fun hnone =>
      Int.not_le.2 hend ((Instant.add?_eq_none_iff s.sessionTtl_pos).1 hnone)
    obtain ⟨expiry, hexpiry⟩ := Option.ne_none_iff_exists'.1 hsome
    refine ⟨expiry, hexpiry, Instant.count_of_add? s.sessionTtl_pos hexpiry, fun hfree => ?_,
      fun row htaken => ?_⟩
    · have hrun := run_authenticate_of_admits hhealthy hblank hadmits hexpiry hfree client
      exact ⟨_, _, _, hrun, rfl, Table.rows_put_of_get?_eq_none hfree⟩
    · have hissue := run_issueSession_of_taken (hhealthy _) hexpiry htaken u.id client
      exact run_authenticate_of_unissued hhealthy hblank hadmits hissue

/-- Noon of the last day. -/
def lastNoon : Instant where
  day := 95026236
  second := 43200
  nano := 0
  nano_lt := by decide

/-- On the last day of the calendar the user of the small world is not let in, for a week is more
than is left. -/
theorem issuance_at_calendarEnd_small :
    (World.small.after (.setClock lastNoon)).Healthy ∧
      ¬ (Text.trimmed "a@b.com" = "" ∨ "secret" = "") ∧
      plain.Admits (World.small.after (.setClock lastNoon)) (Text.trimmed "a@b.com") "secret"
        World.lodger ∧
      (plain.authenticate "a@b.com" "secret" {}).run (World.small.after (.setClock lastNoon)) =
        (.error (.internal "session ttl PT604800S overflows the expiry timestamp"),
          World.small.after (.setClock lastNoon)) := by
  have hhealthy : (World.small.after (.setClock lastNoon)).Healthy := fun _ => rfl
  have hblank : ¬ (Text.trimmed "a@b.com" = "" ∨ "secret" = "") := by decide
  have hadmits : plain.Admits (World.small.after (.setClock lastNoon))
      (Text.trimmed "a@b.com") "secret" World.lodger := ⟨by decide, by decide, by decide⟩
  have hend : Instant.calendarEnd ≤ (World.small.after (.setClock lastNoon)).now.count +
      plain.sessionTtl.nanos := by decide
  exact ⟨hhealthy, hblank, hadmits,
    (issuance_at_calendarEnd hhealthy hblank hadmits {}).1 hend⟩

end Service

end SessionAuth
