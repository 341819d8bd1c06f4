import SessionAuth.Session.Ledger

set_option autoImplicit false

/-! # Histories of the ledger

A *history* is a list of entries, each of which asks something of the ledger and says what the
clock shows at that moment. Nothing relates the clocks of two entries, so a history covers a clock
that is moved forwards and backwards at will.

Everything that a history can do to a stored row is said by one equation, `get?_replay`: the row
stays, and a row without a stamp takes the stamp of the first entry that revokes it
(`Session.stamped`, `firstStamp`). From it follows `history_append_only`: rows are never lost or
changed otherwise, a revocation stands for ever, and the ledger grows by one row for each session
that is stored, and only then.
-/

namespace SessionAuth

/-- The session with a stamp of revocation, unless it has one already. -/
def Session.stamped (s : Session) (stamp : Option Instant) : Session :=
  { s with revokedAt := s.revokedAt.or stamp }

@[simp] theorem Session.stamped_none (s : Session) : s.stamped none = s := by
  simp [Session.stamped]

/-- Of two stamps the first one counts. -/
theorem Session.stamped_stamped (s : Session) (a b : Option Instant) :
    (s.stamped a).stamped b = s.stamped (a.or b) := by
  simp [Session.stamped, Option.or_assoc]

namespace Ledger

/-! ## Entries -/

/-- What may be asked of the ledger. -/
inductive Demand where
  | create (s : Session)
  | findActive (id : Uuid)
  | revoke (id : Uuid) (stamp : Instant)
  deriving DecidableEq

/-- An entry of a history: what is asked, and what the clock shows at that moment. -/
structure Entry where
  now : Instant
  demand : Demand
  deriving DecidableEq

/-- What the ledger replies. -/
inductive Reply where
  | created (outcome : Except Fault Session)
  | found (session : Option Session)
  | revoked

/-- The reply says that a session was stored. -/
def Reply.isStored : Reply → Bool
  | created (.ok _) => true
  | _ => false

/-- The reply to an entry, and the ledger after it. -/
def perform (l : Ledger) (e : Entry) : Reply × Ledger :=
  match e.demand with
  | .create s =>
      match l.create s e.now with
      | .ok (stored, l') => (.created (.ok stored), l')
      | .error f => (.created (.error f), l)
  | .findActive id => (.found (l.findActive id e.now), l)
  | .revoke id stamp => (.revoked, l.revoke id stamp)

/-- The ledger after a history. -/
def replay (l : Ledger) : List Entry → Ledger
  | [] => l
  | e :: h => replay (l.perform e).2 h

/-- The replies to the entries of a history. -/
def replies (l : Ledger) : List Entry → List Reply
  | [] => []
  | e :: h => (l.perform e).1 :: replies (l.perform e).2 h

/-- The stamp that an entry carries for a session, if it asks to revoke that one. -/
def Entry.stampFor (id : Uuid) (e : Entry) : Option Instant :=
  match e.demand with
  | .revoke id' stamp => if id' = id then some stamp else none
  | _ => none

/-- The stamp of the first entry that asks to revoke a session. -/
def firstStamp (id : Uuid) (h : List Entry) : Option Instant := h.findSome? (Entry.stampFor id)

theorem firstStamp_cons (id : Uuid) (e : Entry) (h : List Entry) :
    firstStamp id (e :: h) = (e.stampFor id).or (firstStamp id h) := by
  cases he : e.stampFor id <;> simp [firstStamp, he]

theorem demand_of_stampFor {id : Uuid} {e : Entry} {stamp : Instant}
    (h : e.stampFor id = some stamp) : e.demand = .revoke id stamp := by
  obtain ⟨now, demand⟩ := e
  cases demand with
  | create s => cases h
  | findActive id' => cases h
  | revoke id' stamp' =>
      by_cases hid : id' = id
      · simp only [Entry.stampFor, if_pos hid, Option.some.injEq] at h
        rw [hid, h]
      · simp [Entry.stampFor, hid] at h

theorem firstStamp_ne_none {id : Uuid} {e : Entry} {stamp : Instant} {h : List Entry}
    (he : e ∈ h) (hrevoke : e.demand = .revoke id stamp) : firstStamp id h ≠ none := by
  intro hnone
  have := List.findSome?_eq_none_iff.1 hnone e he
  simp [Entry.stampFor, hrevoke] at this

theorem replay_append (l : Ledger) (h₁ h₂ : List Entry) :
    l.replay (h₁ ++ h₂) = (l.replay h₁).replay h₂ := by
  induction h₁ generalizing l with
  | nil => rfl
  | cons e h₁ ih => exact ih (l.perform e).2

/-! ## What one entry does -/

theorem create_of_get?_eq_some {l : Ledger} {s row : Session} (h : l.get? s.id = some row)
    (now : Instant) : l.create s now = .error (.database "Session already exists") := by
  simp [create, h]

theorem create_of_get?_eq_none {l : Ledger} {s : Session} (h : l.get? s.id = none)
    (now : Instant) :
    l.create s now = .ok ({ s with createdAt := now }, l.put { s with createdAt := now }) := by
  simp [create, h]

/-- A session was stored if its identifier was free. -/
theorem of_create_eq_ok {l l' : Ledger} {s stored : Session} {now : Instant}
    (h : l.create s now = .ok (stored, l')) :
    l.get? s.id = none ∧ stored = { s with createdAt := now } ∧ l' = l.put stored := by
  cases hfree : l.get? s.id with
  | some other =>
      rw [create_of_get?_eq_some hfree] at h
      cases h
  | none =>
      rw [create_of_get?_eq_none hfree] at h
      cases h
      exact ⟨rfl, rfl, rfl⟩

theorem get?_of_create {l l' : Ledger} {s row stored : Session} {id : Uuid} {now : Instant}
    (hs : l.create s now = .ok (stored, l')) (hrow : l.get? id = some row) :
    l'.get? id = some row := by
  obtain ⟨hfree, rfl, rfl⟩ := of_create_eq_ok hs
  have hne : s.id ≠ id := by
    rintro rfl
    rw [hfree] at hrow
    cases hrow
  exact (Table.get?_put_of_ne l (x := { s with createdAt := now }) hne).trans hrow

/-- A revocation stamps the session it names and no other. -/
theorem get?_revoke {l : Ledger} {row : Session} {id : Uuid} (hrow : l.get? id = some row)
    (id' : Uuid) (stamp : Instant) :
    (l.revoke id' stamp).get? id = some (row.stamped (if id' = id then some stamp else none)) := by
  by_cases hid : id' = id
  · subst hid
    have hkey : row.id = id' := Table.key_of_get? hrow
    -- a row that has a stamp keeps it, and the ledger is not touched
    cases hr : row.revokedAt with
    | some t =>
        have hkept : row.stamped (some stamp) = row := by
          cases row
          simp_all [Session.stamped]
        simp [revoke, hrow, Session.isRevoked, hr, hkept]
    | none =>
        simp only [revoke, hrow, Session.isRevoked, Session.stamped, hr, if_true]
        subst hkey
        exact Table.get?_put_self l { row with revokedAt := some stamp }
  · rw [if_neg hid, Session.stamped_none]
    -- the row that is written stands under `id'`, so the one under `id` is as before
    unfold revoke
    split
    · next s hs =>
      split
      · exact hrow
      · have hne : s.id ≠ id := fun h => hid ((Table.key_of_get? hs).symm.trans h)
        exact (Table.get?_put_of_ne l (x := { s with revokedAt := some stamp }) hne).trans hrow
    · exact hrow

/-- **What one entry does to a stored session**: at most, it stamps it. -/
theorem get?_perform {l : Ledger} {row : Session} {id : Uuid} (hrow : l.get? id = some row)
    (e : Entry) : (l.perform e).2.get? id = some (row.stamped (e.stampFor id)) := by
  obtain ⟨now, demand⟩ := e
  cases demand with
  | create s =>
      rw [Entry.stampFor, Session.stamped_none]
      simp only [perform]
      split
      · next hs => exact get?_of_create hs hrow
      · exact hrow
  | findActive id' => rwa [Entry.stampFor, Session.stamped_none]
  | revoke id' stamp => exact get?_revoke hrow id' stamp

/-- An entry changes the stamp of a session only by revoking that session for the first time. -/
theorem revokedAt_stamped_stampFor (row : Session) (id : Uuid) (e : Entry) :
    (row.stamped (e.stampFor id)).revokedAt = row.revokedAt ∨
      row.revokedAt = none ∧ ∃ stamp, e.demand = .revoke id stamp ∧
        (row.stamped (e.stampFor id)).revokedAt = some stamp := by
  cases hstamp : e.stampFor id with
  | none => exact Or.inl (by rw [Session.stamped_none])
  | some stamp =>
      cases hr : row.revokedAt with
      | some t => exact Or.inl (by simp [Session.stamped, hr])
      | none =>
          refine Or.inr ⟨rfl, stamp, demand_of_stampFor hstamp, ?_⟩
          simp [Session.stamped, hr]

/-- One entry makes the ledger larger exactly by the session it stores. -/
theorem size_perform (l : Ledger) (e : Entry) :
    (l.perform e).2.size = l.size + if (l.perform e).1.isStored then 1 else 0 := by
  obtain ⟨now, demand⟩ := e
  cases demand with
  | create s =>
      cases hfree : l.get? s.id with
      | some other => simp [perform, create_of_get?_eq_some hfree, Reply.isStored]
      | none =>
          simp only [perform, create_of_get?_eq_none hfree, Reply.isStored, if_true]
          exact Table.size_put_of_get?_eq_none (x := { s with createdAt := now }) hfree
  | findActive id => rfl
  | revoke id stamp =>
      show (l.revoke id stamp).size = l.size
      unfold revoke
      split
      · next s hs =>
        split
        · rfl
        · have hkey : s.id = id := Table.key_of_get? hs
          exact Table.size_put_of_get?_eq_some (x := { s with revokedAt := some stamp })
            (hkey ▸ hs)
      · rfl

/-! ## What a history does -/

/-- **What a history does to a stored session**: the first revocation stamps it, and that is
all. -/
theorem get?_replay {l : Ledger} {row : Session} {id : Uuid} (hrow : l.get? id = some row)
    (h : List Entry) : (l.replay h).get? id = some (row.stamped (firstStamp id h)) := by
  -- the row is stamped by the head of the history first, and then by what is left of it
  induction h generalizing l row with
  | nil => rwa [firstStamp, List.findSome?_nil, Session.stamped_none]
  | cons e h ih =>
      rw [firstStamp_cons, ← Session.stamped_stamped]
      exact ih (get?_perform hrow e)

theorem size_replay (l : Ledger) (h : List Entry) :
    (l.replay h).size = l.size + (l.replies h).countP Reply.isStored := by
  induction h generalizing l with
  | nil => rfl
  | cons e h ih =>
      rw [replies, List.countP_cons, replay, ih, size_perform]
      omega

/-- A stamped session is never found active, whatever the clock shows. -/
theorem findActive_eq_none_of_revoked {l : Ledger} {row : Session} {id : Uuid}
    (hrow : l.get? id = some row) (hr : row.revokedAt ≠ none) (now : Instant) :
    l.findActive id now = none := by
  cases hf : l.findActive id now with
  | none => rfl
  | some s =>
      obtain ⟨hs, hnone, -⟩ := findActive_eq_some_iff.1 hf
      rw [hrow, Option.some.injEq] at hs
      exact absurd (hs ▸ hnone) hr

/-- The ledger is **append-only and a revocation stands**. Let some rows have been stored by the
history `before`, and let any history `after` follow.

* Every row stays under its own identifier, and nothing about it changes but the revocation.
* A row without a revocation takes the stamp of the first entry that revokes it, and keeps it;
  any single entry leaves the revocation of a row as it was, or revokes this very row, which had
  not been revoked before.
* A row that some entry revokes is not found active any more, whatever the clock shows.
* A taken identifier is refused and the ledger stays as it is; the rows are as many as the
  sessions that were stored. -/
theorem history_append_only (before after : List Entry) :
    (∀ id row, (empty.replay before).get? id = some row →
      ∃ row', (empty.replay (before ++ after)).get? id = some row' ∧
        row.id = id ∧ row'.id = id ∧ row'.userId = row.userId ∧
        row'.expiresAt = row.expiresAt ∧ row'.createdAt = row.createdAt ∧
        row'.userAgent = row.userAgent ∧ row'.ipAddress = row.ipAddress ∧
        row'.revokedAt = row.revokedAt.or (firstStamp id after)) ∧
    (∀ id row e, (empty.replay before).get? id = some row →
      ∃ row', ((empty.replay before).perform e).2.get? id = some row' ∧
        (row'.revokedAt = row.revokedAt ∨
          row.revokedAt = none ∧
            ∃ stamp, e.demand = .revoke id stamp ∧ row'.revokedAt = some stamp)) ∧
    (∀ id row e stamp now, (empty.replay before).get? id = some row →
      e ∈ after → e.demand = .revoke id stamp →
        ((empty.replay (before ++ after)).perform ⟨now, .findActive id⟩).1 = .found none) ∧
    (∀ s row now, (empty.replay before).get? s.id = some row →
      (empty.replay before).perform ⟨now, .create s⟩ =
        (.created (.error (.database "Session already exists")), empty.replay before)) ∧
    (empty.replay before).size = (empty.replies before).countP Reply.isStored := by
  refine ⟨?_, ?_, ?_, ?_, ?_⟩
  · intro id row hrow
    have hkey : row.id = id := Table.key_of_get? hrow
    refine ⟨row.stamped (firstStamp id after), ?_, hkey, hkey, rfl, rfl, rfl, rfl, rfl, rfl⟩
    rw [replay_append]
    exact get?_replay hrow after
  · intro id row e hrow
    refine ⟨row.stamped (e.stampFor id), get?_perform hrow e, ?_⟩
    exact revokedAt_stamped_stampFor row id e
  · intro id row e stamp now hrow he hrevoke
    have hlater := get?_replay hrow after
    rw [← replay_append] at hlater
    -- the entry `e` has a stamp for the row, so the history has a first one
    have hstamp : firstStamp id after ≠ none := firstStamp_ne_none he hrevoke
    have hrevoked : (row.stamped (firstStamp id after)).revokedAt ≠ none := by
      rw [Session.stamped, Ne, Option.or_eq_none_iff]
      exact fun h => hstamp h.2
    show Reply.found _ = _
    rw [findActive_eq_none_of_revoked hlater hrevoked now]
  · intro s row now hrow
    simp only [perform, create_of_get?_eq_some hrow]
  · rw [size_replay]
    exact Nat.zero_add _

end Ledger

end SessionAuth
