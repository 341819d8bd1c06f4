import SessionAuth.Proofs.Service.Verdict

set_option autoImplicit false

/-! # How long a session counts

A session ends in two ways, and they rest on different things. A revocation is written into the
row, and rows persist; an expiry is judged by the clock at every look-up anew, and the clock may
be set back. So a revoked session has ended for good, but a session that was not found because it
had expired is found again as soon as the clock stands before its expiry: `World.comes_back_iff`
says exactly when.
-/

namespace SessionAuth.World

variable {w : World} {id : Uuid} {row : Session}

/-- A stored session is active after a run of events exactly if it has not been revoked, before
or on the way, and the clock stands before its expiry. -/
theorem findActive_through_iff (hrow : w.sessions.get? id = some row) (es : List Event)
    (found : Session) :
    (w.through es).sessions.findActive id (w.through es).now = some found ↔
      found = row ∧ row.revokedAt = none ∧ Ledger.firstStamp id (w.historyOf es) = none ∧
        (w.through es).now < row.expiresAt := by
  -- the row under `id` is `row` with the first stamp of the history, if it had none
  rw [Ledger.findActive_eq_some_iff, get?_sessions_through hrow es, Option.some.injEq]
  constructor
  · rintro ⟨rfl, hunrevoked, hunexpired⟩
    have hnone : row.revokedAt = none ∧ Ledger.firstStamp id (w.historyOf es) = none :=
      Option.or_eq_none_iff.1 hunrevoked
    refine ⟨?_, hnone.1, hnone.2, hunexpired⟩
    rw [hnone.2, Session.stamped_none]
  · rintro ⟨rfl, hunrevoked, hstamp, hunexpired⟩
    rw [hstamp, Session.stamped_none]
    exact ⟨rfl, hunrevoked, hunexpired⟩

/-- The stores vouch for a stored session after a run of events exactly if it is active then and
so is its owner. -/
theorem vouches_through_iff (hrow : w.sessions.get? id = some row) (es : List Event)
    (found : Session) (owner : User) :
    (w.through es).Vouches id found owner ↔
      found = row ∧ row.revokedAt = none ∧ Ledger.firstStamp id (w.historyOf es) = none ∧
        (w.through es).now < row.expiresAt ∧
        (w.through es).users.users.get? row.userId = some owner ∧ owner.deletedAt = none ∧
        owner.isActive = true := by
  constructor
  · intro h
    obtain ⟨rfl, hunrevoked, hstamp, hunexpired⟩ :=
      (findActive_through_iff hrow es found).1 h.findActive
    exact ⟨rfl, hunrevoked, hstamp, hunexpired, h.owned, h.undeleted, h.active⟩
  · rintro ⟨rfl, hunrevoked, hstamp, hunexpired, howned, hundeleted, hactive⟩
    have hfound : (w.through es).sessions.findActive id (w.through es).now = some found :=
      (findActive_through_iff hrow es found).2 ⟨rfl, hunrevoked, hstamp, hunexpired⟩
    have howner : (w.through es).users.findById found.userId = some owner :=
      Directory.findById_eq_some_iff.2 ⟨howned, by simp [User.isDeleted, hundeleted]⟩
    exact .of_find hfound howner hactive

/-- The guard passes a request with the identifier of a stored session, after a run of events,
exactly if it is not hindered, the session is active then and so is its owner. -/
theorem passes_through_iff (hrow : w.sessions.get? id = some row) (es : List Event)
    {name : String} {hs : Headers} (hid : Guard.presented? name hs = some id) :
    (∃ i, ((Guard.authenticate name hs).run (w.through es)).1 = .ok i) ↔
      Guard.Unhindered (w.through es) ∧ row.revokedAt = none ∧
        Ledger.firstStamp id (w.historyOf es) = none ∧ (w.through es).now < row.expiresAt ∧
        ∃ owner, (w.through es).users.users.get? row.userId = some owner ∧
          owner.deletedAt = none ∧ owner.isActive = true := by
  constructor
  · rintro ⟨i, hi⟩
    obtain ⟨hguard, found, owner, hvouches, -⟩ := (Guard.authenticate_succeeds_iff hid i).1 hi
    obtain ⟨-, hunrevoked, hstamp, hunexpired, howner⟩ :=
      (vouches_through_iff hrow es found owner).1 hvouches
    exact ⟨hguard, hunrevoked, hstamp, hunexpired, owner, howner⟩
  · rintro ⟨hguard, hunrevoked, hstamp, hunexpired, owner, howner⟩
    have hvouches : (w.through es).Vouches id row owner :=
      (vouches_through_iff hrow es row owner).2 ⟨rfl, hunrevoked, hstamp, hunexpired, howner⟩
    exact ⟨Guard.identityOf _ row owner, (Guard.authenticate_succeeds_iff hid _).2
      ⟨hguard, row, owner, hvouches, rfl⟩⟩

/-- A stored session that a look-up misses has been revoked or has expired. -/
theorem ended_of_missed (hrow : w.sessions.get? id = some row)
    (hmiss : ((Action.findActiveSession id).run w).1 = .ok none) :
    row.revokedAt ≠ none ∨ row.expiresAt ≤ w.now := by
  obtain ⟨-, hnone, -⟩ := Action.of_run_findActiveSession_eq_ok (Prod.ext hmiss rfl)
  by_cases hrevoked : row.revokedAt = none
  · right
    by_cases hexpired : w.now < row.expiresAt
    · have hfound : w.sessions.findActive id w.now = some row :=
        Ledger.findActive_eq_some_iff.2 ⟨hrow, hrevoked, hexpired⟩
      rw [← hnone] at hfound
      cases hfound
    · exact Int.not_lt.1 hexpired
  · exact Or.inl hrevoked

/-- **When an ended session comes back.** Suppose that a look-up misses a stored session. After
any run of events a look-up finds it again exactly if look-ups do not fail, it has not been revoked
to this day, and it was missed because the clock had reached its expiry but now stands before it
again. The guard then lets it pass if it is not hindered and the owner of the session is stored,
not deleted and switched on, and never otherwise. -/
theorem comes_back_iff (hrow : w.sessions.get? id = some row)
    (hmiss : ((Action.findActiveSession id).run w).1 = .ok none) (es : List Event) :
    (∀ found, ((Action.findActiveSession id).run (w.through es)).1 = .ok (some found) ↔
      found = row ∧ (w.through es).faults .findActiveSession = none ∧ row.revokedAt = none ∧
        Ledger.firstStamp id (w.historyOf es) = none ∧
        row.expiresAt ≤ w.now ∧ (w.through es).now < row.expiresAt) ∧
    ∀ name hs, Guard.presented? name hs = some id →
      ((∃ i, ((Guard.authenticate name hs).run (w.through es)).1 = .ok i) ↔
        Guard.Unhindered (w.through es) ∧ row.revokedAt = none ∧
          Ledger.firstStamp id (w.historyOf es) = none ∧
          row.expiresAt ≤ w.now ∧ (w.through es).now < row.expiresAt ∧
          ∃ owner, (w.through es).users.users.get? row.userId = some owner ∧
            owner.deletedAt = none ∧ owner.isActive = true) := by
  -- a revocation stands, so what comes back was missed because it had expired
  have hexpired : row.revokedAt = none → row.expiresAt ≤ w.now := fun hunrevoked =>
    (ended_of_missed hrow hmiss).resolve_left fun hrevoked => hrevoked hunrevoked
  constructor
  · intro found
    constructor
    · intro hfound
      obtain ⟨hfaults, hactive, -⟩ :=
        Action.of_run_findActiveSession_eq_ok (Prod.ext hfound rfl)
      obtain ⟨hsame, hunrevoked, hstamp, hunexpired⟩ :=
        (findActive_through_iff hrow es found).1 hactive.symm
      exact ⟨hsame, hfaults, hunrevoked, hstamp, hexpired hunrevoked, hunexpired⟩
    · rintro ⟨hsame, hfaults, hunrevoked, hstamp, -, hunexpired⟩
      rw [Action.run_findActiveSession hfaults,
        (findActive_through_iff hrow es found).2 ⟨hsame, hunrevoked, hstamp, hunexpired⟩]
  · intro name hs hid
    rw [passes_through_iff hrow es hid]
    constructor
    · rintro ⟨hguard, hunrevoked, hstamp, hunexpired, howner⟩
      exact ⟨hguard, hunrevoked, hstamp, hexpired hunrevoked, hunexpired, howner⟩
    · rintro ⟨hguard, hunrevoked, hstamp, -, hunexpired, howner⟩
      exact ⟨hguard, hunrevoked, hstamp, hunexpired, howner⟩

/-- The session of the small world is missed when it expires and comes back when the clock is set
back. -/
theorem stay_comes_back :
    small.sessions.get? stay.id = some stay ∧
      ((Action.findActiveSession stay.id).run (small.after (.setClock stay.expiresAt))).1 =
        .ok none ∧
      ((Action.findActiveSession stay.id).run
        (small.through [.setClock stay.expiresAt, .setClock .epoch])).1 = .ok (some stay) := by
  have hrow : small.sessions.get? stay.id = some stay := by decide
  have hmiss : ((Action.findActiveSession stay.id).run
      (small.after (.setClock stay.expiresAt))).1 = .ok none := rfl
  refine ⟨hrow, hmiss, ?_⟩
  exact ((comes_back_iff (w := small.after (.setClock stay.expiresAt)) hrow hmiss
    [.setClock .epoch]).1 stay).2 ⟨rfl, rfl, rfl, rfl, by decide, by decide⟩

/-- That an ended session stays ended, in every reachable world and along every run of events, is
not so. -/
theorem expiry_not_terminal :
    ¬ ∀ (w : World) (id : Uuid) (row : Session) (es : List Event), w.Reachable →
      w.sessions.get? id = some row →
      ((Action.findActiveSession id).run w).1 = .ok none →
      ∀ found, ((Action.findActiveSession id).run (w.through es)).1 ≠ .ok (some found) := by
  intro hlaw
  have hreach : (small.after (.setClock stay.expiresAt)).Reachable := by
    refine ⟨blank, beginnings ++ [.setClock stay.expiresAt], ⟨rfl, rfl⟩, ?_⟩
    rw [through_append]
    rfl
  exact hlaw (small.after (.setClock stay.expiresAt)) stay.id stay [.setClock .epoch] hreach
    (by decide) rfl stay rfl

end SessionAuth.World
