import SessionAuth.Proofs.Account.Standing
import SessionAuth.Proofs.Api.Login
import SessionAuth.Proofs.Service.Faults

set_option autoImplicit false

/-! # Deleted accounts

A deleted account stays stored, with a mark of its deletion. Nothing takes the mark away but a new
row under the same identifier: whoever switches the account on or assigns it roles leaves the mark
where it is, and an account of the same email is another account. So from its deletion on an account
is *gone* (`World.gone_through`), and whoever is gone is found by nothing, logs in no more and
passes no guard, with whatever sessions: `World.deletion_terminal`.
-/

namespace SessionAuth

namespace Directory

variable {d d' : Directory} {id : Uuid}

/-- The row under an identifier is marked as deleted. -/
def Gone (d : Directory) (id : Uuid) : Prop :=
  ∃ u, d.users.get? id = some u ∧ u.deletedAt ≠ none

namespace Gone

/-- Whoever is gone is not found by the identifier. -/
theorem findById (h : d.Gone id) : d.findById id = none := by
  obtain ⟨u, hu, hdeleted⟩ := h
  simp [Directory.findById, hu, User.isDeleted, hdeleted]

/-- No email finds who is gone. -/
theorem ne_of_findByEmail (h : d.Gone id) {email : String} {v : User}
    (hv : d.findByEmail email = some v) : v.id ≠ id := by
  obtain ⟨u, hu, hdeleted⟩ := h
  rintro rfl
  -- the user who was found is the one under this identifier
  cases hu.symm.trans (Table.get?_key_of_mem (mem_of_findByEmail hv))
  exact hdeleted (by simpa [User.isDeleted] using (email_of_findByEmail hv).2)

/-- **A mark of deletion stays** when the directory is changed, unless a row is stored in the place
of the marked one. -/
theorem administer {e : Event} (h : d.Gone id) (he : ¬ e.Inserts id)
    (hchange : e.administer d = .ok d') : d'.Gone id := by
  obtain ⟨u, hu, hdeleted⟩ := h
  cases alters_administer hchange id with
  | nothing same => exact ⟨u, same.trans hu, hdeleted⟩
  | switched stored now =>
      cases hu.symm.trans stored
      exact ⟨_, now, hdeleted⟩
  | deleted stored now => exact ⟨_, now, nofun⟩
  | inserted inserts => exact absurd inserts he

end Gone

theorem gone_of_softDelete {stamp : Instant} (h : d.softDelete id stamp = .ok d') :
    d'.Gone id := by
  obtain ⟨u, hu, rfl⟩ := of_change_eq_ok h
  have hkey : u.id = id := Table.key_of_get? hu
  subst hkey
  exact ⟨_, Table.get?_put_self d.users { u with deletedAt := some stamp }, nofun⟩

end Directory

namespace World

variable {w : World} {id : Uuid}

/-- **Who is gone stays gone**, whatever happens, until a row is stored under the identifier. -/
theorem gone_through {es : List Event} (hw : w.users.Gone id) (hes : ∀ e ∈ es, ¬ e.Inserts id) :
    (w.through es).users.Gone id := by
  induction es generalizing w with
  | nil => exact hw
  | cons e es ih =>
      obtain ⟨he, hrest⟩ := List.forall_mem_cons.1 hes
      refine ih ?_ hrest
      rcases users_after w e with hsame | hchange
      · rwa [hsame]
      · exact hw.administer he hchange

theorem gone_after_softDelete {d : Directory} {stamp : Instant}
    (h : w.users.softDelete id stamp = .ok d) : (w.after (.softDelete id stamp)).users.Gone id := by
  have husers : (w.after (.softDelete id stamp)).users = d := by
    simp [after, Event.administer, h, Except.toOption]
  rw [husers]
  exact Directory.gone_of_softDelete h

/-! ## What the service says of them -/

/-- Whoever is authenticated is not gone, and a session is stored for nobody else. -/
theorem authenticate_of_gone (hw : w.users.Gone id) (s : Service) (email password : String)
    (client : Metadata) :
    (∀ user session, ((s.authenticate email password client).run w).1 = .ok (user, session) →
      user.id ≠ id ∧ session.userId ≠ id) ∧
    ∀ k row, ((s.authenticate email password client).run w).2.sessions.get? k = some row →
      row.userId = id → w.sessions.get? k = some row := by
  rcases hrun : (s.authenticate email password client).run w with ⟨e | ⟨user, session⟩, w'⟩
  · refine ⟨fun user session hok => (by cases hok), fun k row hrow howner => ?_⟩
    have hkept := s.authenticate_atomic email password client w e (by rw [hrun])
    rw [hrun] at hkept
    exact hkept ▸ hrow
  · obtain ⟨u, expiry, hlets, rfl, -, -⟩ := Service.of_run_authenticate_eq_ok hrun
    have hne : u.id ≠ id := by
      rintro rfl
      obtain ⟨v, hv, hdeleted⟩ := hw
      cases hlets.found.symm.trans hv
      exact hdeleted hlets.undeleted
    constructor
    · intro user session' hok
      cases hok
      exact ⟨hne, hlets.owned ▸ hne⟩
    · intro k row hrow howner
      -- the one new row belongs to the user who was let in
      cases hfree : w.sessions.get? k with
      | none =>
          rw [hlets.eq_of_new hrow hfree] at howner
          exact absurd (hlets.owned.symm.trans howner) hne
      | some old =>
          have hkey : session.id ≠ k := by
            rintro rfl
            rw [hlets.free] at hfree
            cases hfree
          rw [← hfree, ← Table.get?_put_of_ne w.sessions hkey, ← hlets.stored]
          exact hrow

/-- The stores vouch for no session of whoever is gone. -/
theorem not_vouches_of_gone (hw : w.users.Gone id) {name : String} {hs : Headers} {k : Uuid}
    {row : Session} (hk : Guard.presented? name hs = some k) (hrow : w.sessions.get? k = some row)
    (howner : row.userId = id) :
    ¬ ∃ k row owner, Guard.presented? name hs = some k ∧ w.Vouches k row owner := by
  rintro ⟨k', row', owner, hk', hv⟩
  cases hk.symm.trans hk'
  cases hrow.symm.trans hv.stored
  have hnobody : w.users.findById row.userId = none := howner ▸ hw.findById
  exact nomatch hnobody.symm.trans hv.findById

/-- The guard refuses the sessions of whoever is gone, if it does not run into a fault before. -/
theorem guard_of_gone (hw : w.users.Gone id) {name : String} {hs : Headers} {k : Uuid}
    {row : Session} (hk : Guard.presented? name hs = some k) (hrow : w.sessions.get? k = some row)
    (howner : row.userId = id) :
    ((Guard.authenticate name hs).run w).1 =
      .error (((Guard.authenticate name hs).firstFailure? w).elim .unauthorized Prod.snd) := by
  cases hfirst : (Guard.authenticate name hs).firstFailure? w with
  | some kf => exact Guard.authenticate_reports name hs w kf.1 kf.2 hfirst
  | none =>
      -- without a failure the verdict is that of healthy stores
      have hhealed := Action.run_healed hfirst
      have hnot := not_vouches_of_gone (w := w.healed) hw hk hrow howner
      rw [Guard.run_authenticate_of_not_vouches w.healed_healthy hnot] at hhealed
      exact (congrArg Prod.fst hhealed).symm

/-- **Deletion is final.** Let an account have been deleted, in whatever world, and let any events
follow, of which none stores a row under the identifier of the account: the account is switched on,
roles are assigned to it, accounts with its email are stored, sessions are created for it, the clock
is moved, stores fail, people log in. Then

* it is not found by its identifier, nor by any email,
* nobody who is authenticated is this account, and no authentication stores a session for it,
* the guard refuses whoever presents a session of the account, unless a store fails before, and then
  it passes on the fault. -/
theorem deletion_terminal {stamp : Instant} {d : Directory}
    (hdeleted : w.users.softDelete id stamp = .ok d) {es : List Event}
    (hes : ∀ e ∈ es, ¬ e.Inserts id) {v : World}
    (hv : v = (w.after (.softDelete id stamp)).through es) :
    v.users.findById id = none ∧
    (∀ email u, v.users.findByEmail email = some u → u.id ≠ id) ∧
    (∀ (s : Service) email password client,
      (∀ user session, ((s.authenticate email password client).run v).1 = .ok (user, session) →
        user.id ≠ id ∧ session.userId ≠ id) ∧
      ∀ k row, ((s.authenticate email password client).run v).2.sessions.get? k = some row →
        row.userId = id → v.sessions.get? k = some row) ∧
    ∀ name hs k row, Guard.presented? name hs = some k → v.sessions.get? k = some row →
      row.userId = id →
      ((Guard.authenticate name hs).run v).1 =
          .error (((Guard.authenticate name hs).firstFailure? v).elim .unauthorized Prod.snd) ∧
        (v.Healthy → ((Guard.authenticate name hs).run v).1 = .error .unauthorized) := by
  have hgone : v.users.Gone id := hv ▸ gone_through (gone_after_softDelete hdeleted) hes
  refine ⟨hgone.findById, fun email u => hgone.ne_of_findByEmail, authenticate_of_gone hgone, ?_⟩
  intro name hs k row hk hrow howner
  refine ⟨guard_of_gone hgone hk hrow howner, fun hhealthy => ?_⟩
  have hnot := not_vouches_of_gone hgone hk hrow howner
  rw [Guard.run_authenticate_of_not_vouches hhealthy hnot]

/-- Everything that might bring the user of the small world back: the account is switched on and
gets a role, its email goes to another account, a session is created for it, and half an hour
passes. -/
def revival : List Event :=
  [.setActive lodger.id true .epoch,
    .assignRole lodger.id ⟨.ofNat 3, "admin", none, .epoch, .epoch⟩,
    .insertUser { lodger with id := .ofNat 8 },
    .call (.createSession { stay with id := .ofNat 6 }),
    .setClock halfTime]

/-- The user of the small world is deleted and not brought back: the session that was active before
is refused, and so is the one that was created afterwards. -/
theorem deletion_terminal_small :
    ∃ d v, small.users.softDelete lodger.id .epoch = .ok d ∧
      v = (small.after (.softDelete lodger.id .epoch)).through revival ∧ v.Healthy ∧
      v.users.findById lodger.id = none ∧
      (v.users.findByEmail lodger.email).map User.id = some (.ofNat 8) ∧
      ((Guard.authenticate "session_id" [⟨"Cookie", Text.utf8
        "session_id=00000000-0000-0000-0000-000000000005"⟩]).run v).1 = .error .unauthorized ∧
      ((Guard.authenticate "session_id" [⟨"Cookie", Text.utf8
        "session_id=00000000-0000-0000-0000-000000000006"⟩]).run v).1 = .error .unauthorized := by
  have hinserts : ∀ e ∈ revival, ¬ e.Inserts lodger.id := by
    intro e he
    simp only [revival, List.mem_cons, List.not_mem_nil, or_false] at he
    rcases he with rfl | rfl | rfl | rfl | rfl
    · exact id
    · exact id
    · show ¬ (Uuid.ofNat 8 = Uuid.ofNat 7)
      decide
    · exact id
    · exact id
  have hdeleted : small.users.softDelete lodger.id .epoch =
      .ok (small.users.insert { lodger with deletedAt := some .epoch }) := rfl
  have hhealthy : ((small.after (.softDelete lodger.id .epoch)).through revival).Healthy :=
    fun _ => rfl
  obtain ⟨hnobody, -, -, hguard⟩ := deletion_terminal hdeleted hinserts rfl
  refine ⟨_, _, hdeleted, rfl, hhealthy, hnobody, by decide, ?_, ?_⟩
  · exact (hguard "session_id" _ (.ofNat 5) stay (by decide) (by decide) rfl).2 hhealthy
  · exact (hguard "session_id" _ (.ofNat 6) { stay with id := .ofNat 6 } (by decide) (by decide)
      rfl).2 hhealthy

end World

end SessionAuth
