import SessionAuth.Proofs.Account.RoleOrder
import SessionAuth.Service.Guard

set_option autoImplicit false

/-! # The verdict of the guard

When does the guard let a request pass? The stores *vouch* for a session identifier if it belongs
to a stored session that is neither revoked nor expired, and the session belongs to a stored user
who is neither deleted nor switched off (`World.Vouches`). In a healthy world the guard grants an
identity exactly to the requests that present such an identifier, it refuses all others with one
and the same fault, and it changes nothing: `Guard.authenticate_eq_ok_iff`. The parts of the
identity come from the two rows; that they fit together is known because a row is found under its
own key and because the roles ascend in every reachable world.
-/

namespace SessionAuth

/-- The stores vouch for a session identifier: it belongs to the session `row` and to its owner,
and both count at the moment. -/
structure World.Vouches (w : World) (id : Uuid) (row : Session) (owner : User) : Prop where
  stored : w.sessions.get? id = some row
  unrevoked : row.revokedAt = none
  unexpired : w.now < row.expiresAt
  owned : w.users.users.get? row.userId = some owner
  undeleted : owner.deletedAt = none
  active : owner.isActive = true

namespace World.Vouches

variable {w : World} {id : Uuid} {row : Session} {owner : User}

theorem findActive (h : w.Vouches id row owner) :
    w.sessions.findActive id w.now = some row :=
  Ledger.findActive_eq_some_iff.2 ⟨h.stored, h.unrevoked, h.unexpired⟩

theorem findById (h : w.Vouches id row owner) : w.users.findById row.userId = some owner :=
  Directory.findById_eq_some_iff.2 ⟨h.owned, by simp [User.isDeleted, h.undeleted]⟩

/-- Stores that find an active session and an active owner of it vouch for the identifier. -/
theorem of_find (hrow : w.sessions.findActive id w.now = some row)
    (howner : w.users.findById row.userId = some owner) (hactive : owner.isActive = true) :
    w.Vouches id row owner := by
  obtain ⟨hstored, hunrevoked, hunexpired⟩ := Ledger.findActive_eq_some_iff.1 hrow
  obtain ⟨howned, hundeleted⟩ := Directory.findById_eq_some_iff.1 howner
  exact ⟨hstored, hunrevoked, hunexpired, howned, by simpa [User.isDeleted] using hundeleted,
    hactive⟩

end World.Vouches

namespace Guard

@[simp] theorem require_some {α : Type} (a : α) : require (some a) = pure a := rfl

@[simp] theorem require_none {α : Type} : require (none : Option α) = throw .unauthorized := rfl

theorem of_run_require_eq_ok {α : Type} {o : Option α} {a : α} {w w' : World}
    (h : (require o).run w = (.ok a, w')) : o = some a ∧ w' = w := by
  cases o with
  | none => cases h
  | some b =>
      cases h
      exact ⟨rfl, rfl⟩

/-- None of the store calls that the guard makes fails. -/
structure Unhindered (w : World) : Prop where
  findActiveSession : w.faults .findActiveSession = none
  findById : w.faults .findById = none
  listRoles : w.faults .listRoles = none

theorem Unhindered.of_healthy {w : World} (hw : w.Healthy) : Unhindered w :=
  ⟨hw _, hw _, hw _⟩

/-- The identity behind a session and its owner. -/
def identityOf (w : World) (row : Session) (owner : User) : Identity :=
  ⟨row.userId, owner.email, Role.names (w.users.rolesOf row.userId), row.id⟩

/-! ## The guard only looks -/

theorem require_onlyLooks {α : Type} (o : Option α) : (require o).OnlyLooks := by
  cases o with
  | none => exact .throw _
  | some a => exact .pure a

theorem resolve_onlyLooks (id : Uuid) : (resolve id).OnlyLooks := by
  refine .bind (.findActiveSession id) fun found => .bind (require_onlyLooks found) fun row => ?_
  refine .bind (.findById row.userId) fun owner => .bind (require_onlyLooks _) fun user => ?_
  exact .bind (.listRoles user.id) fun roles => .pure _

/-- Whatever the guard decides, it changes nothing. -/
theorem authenticate_onlyLooks (name : String) (hs : Headers) :
    (authenticate name hs).OnlyLooks :=
  .bind (require_onlyLooks _) resolve_onlyLooks

/-! ## Identifiers -/

variable {w : World} {id : Uuid}

/-- An identifier that the stores vouch for is resolved, and nothing is changed. -/
theorem run_resolve_of_vouches (hw : Unhindered w) {row : Session} {owner : User}
    (h : w.Vouches id row owner) : (resolve id).run w = (.ok (identityOf w row owner), w) := by
  have hkey : owner.id = row.userId := Directory.id_of_findById h.findById
  have hfilter : (some owner).filter User.isActive = some owner := by simp [h.active]
  rw [resolve, Action.run_bind_of_ok (Action.run_findActiveSession hw.findActiveSession id),
    h.findActive, require_some, Action.run_bind_of_ok (Action.run_pure row w),
    Action.run_bind_of_ok (Action.run_findById hw.findById row.userId), h.findById, hfilter,
    require_some, Action.run_bind_of_ok (Action.run_pure owner w),
    Action.run_bind_of_ok (Action.run_listRoles hw.listRoles owner.id), hkey]
  rfl

/-- An identifier that is resolved is one that the stores vouch for. -/
theorem of_run_resolve_eq_ok {i : Identity} {w' : World}
    (h : (resolve id).run w = (.ok i, w')) :
    Unhindered w ∧ ∃ row owner, w.Vouches id row owner ∧ i = identityOf w row owner := by
  -- every step has succeeded, and what it has found are the two rows and the roles
  obtain ⟨found, v₁, hfind₁, hrest₁⟩ := Action.of_run_bind_eq_ok h
  obtain ⟨hsessions, rfl, rfl⟩ := Action.of_run_findActiveSession_eq_ok hfind₁
  obtain ⟨row, v₂, hrequire₁, hrest₂⟩ := Action.of_run_bind_eq_ok hrest₁
  obtain ⟨hrow, rfl⟩ := of_run_require_eq_ok hrequire₁
  obtain ⟨found, v₃, hfind₂, hrest₃⟩ := Action.of_run_bind_eq_ok hrest₂
  obtain ⟨husers, rfl, rfl⟩ := Action.of_run_findById_eq_ok hfind₂
  obtain ⟨owner, v₄, hrequire₂, hrest₄⟩ := Action.of_run_bind_eq_ok hrest₃
  obtain ⟨howner, rfl⟩ := of_run_require_eq_ok hrequire₂
  obtain ⟨roles, v₅, hlist, hlast⟩ := Action.of_run_bind_eq_ok hrest₄
  obtain ⟨hroles, rfl, rfl⟩ := Action.of_run_listRoles_eq_ok hlist
  cases hlast
  obtain ⟨hfound, hactive⟩ := Option.filter_eq_some_iff.1 howner
  refine ⟨⟨hsessions, husers, hroles⟩, row, owner, .of_find hrow hfound hactive, ?_⟩
  rw [identityOf, Directory.id_of_findById hfound]

/-- An identifier that the stores do not vouch for is refused, and nothing is changed. -/
theorem run_resolve_of_not_vouches (hw : w.Healthy) (h : ¬ ∃ row owner, w.Vouches id row owner) :
    (resolve id).run w = (.error .unauthorized, w) := by
  rw [resolve, Action.run_bind_of_ok (Action.run_findActiveSession (hw _) id)]
  -- either the session is missed, or its owner is missed or switched off
  cases hrow : w.sessions.findActive id w.now with
  | none => exact Action.run_bind_of_error (Action.run_throw _ w) _
  | some row =>
      rw [require_some, Action.run_bind_of_ok (Action.run_pure row w),
        Action.run_bind_of_ok (Action.run_findById (hw _) row.userId)]
      have hnone : (w.users.findById row.userId).filter User.isActive = none := by
        rw [Option.filter_eq_none_iff]
        intro owner howner hactive
        exact h ⟨row, owner, .of_find hrow howner hactive⟩
      rw [hnone]
      exact Action.run_bind_of_error (Action.run_throw _ w) _

/-! ## Requests -/

/-- A request that presents an identifier gets what the identifier is resolved to. -/
theorem run_authenticate_of_presented {name : String} {hs : Headers} {id : Uuid}
    (h : presented? name hs = some id) (w : World) :
    (authenticate name hs).run w = (resolve id).run w := by
  rw [authenticate, h, require_some, Action.run_bind_of_ok (Action.run_pure id w)]

/-- A request that presents no identifier is refused, whatever the stores do. -/
theorem run_authenticate_of_not_presented {name : String} {hs : Headers}
    (h : presented? name hs = none) (w : World) :
    (authenticate name hs).run w = (.error .unauthorized, w) := by
  rw [authenticate, h, require_none]
  exact Action.run_bind_of_error (Action.run_throw _ w) _

theorem presented?_eq_some_iff {name : String} {hs : Headers} {id : Uuid} :
    presented? name hs = some id ↔
      ∃ raw, Cookie.value? name hs = some raw ∧ Uuid.ofText? raw = some id := by
  simp [presented?, Option.bind_eq_some_iff]

/-- A request that presents an identifier passes exactly if the stores vouch for it and the guard
is not hindered. -/
theorem authenticate_succeeds_iff {name : String} {hs : Headers}
    (hid : presented? name hs = some id) (i : Identity) :
    ((authenticate name hs).run w).1 = .ok i ↔
      Unhindered w ∧ ∃ row owner, w.Vouches id row owner ∧ i = identityOf w row owner := by
  rw [run_authenticate_of_presented hid]
  constructor
  · intro hi
    exact of_run_resolve_eq_ok (Prod.ext hi rfl)
  · rintro ⟨hw, row, owner, h, rfl⟩
    rw [run_resolve_of_vouches hw h]

theorem exists_presented_of_passes {name : String} {hs : Headers} {i : Identity}
    (hi : ((authenticate name hs).run w).1 = .ok i) : ∃ id, presented? name hs = some id := by
  cases hid : presented? name hs with
  | none =>
      rw [run_authenticate_of_not_presented hid] at hi
      cases hi
  | some id => exact ⟨id, rfl⟩

/-- A request that presents no identifier for which the stores vouch is refused. -/
theorem run_authenticate_of_not_vouches (hw : w.Healthy) {name : String} {hs : Headers}
    (h : ¬ ∃ id row owner, presented? name hs = some id ∧ w.Vouches id row owner) :
    (authenticate name hs).run w = (.error .unauthorized, w) := by
  cases hid : presented? name hs with
  | none => exact run_authenticate_of_not_presented hid w
  | some id =>
      rw [run_authenticate_of_presented hid]
      apply run_resolve_of_not_vouches hw
      rintro ⟨row, owner, hv⟩
      exact h ⟨id, row, owner, hid, hv⟩

/-- **The guard is sound and complete.** In a reachable and healthy world it grants a request the
identity `i` exactly if

* the session cookie of the request is read and is the text of an identifier,
* the stores vouch for it: its session is stored, not revoked, and expires after the present, and
  the owner of the session is stored, not deleted, and switched on,
* `i` names the owner, the email that is stored for the owner now, the session, and in strictly
  ascending order the names of the owner's present roles, the empty one left out.

A request without all this is refused as unauthorized, and the world stays as it is. -/
theorem authenticate_eq_ok_iff {w : World} (hreach : w.Reachable) (hw : w.Healthy)
    (name : String) (hs : Headers) :
    (∀ i, ((authenticate name hs).run w).1 = .ok i ↔
      ∃ raw id row owner, Cookie.value? name hs = some raw ∧ Uuid.ofText? raw = some id ∧
        w.Vouches id row owner ∧
        i.userId = row.userId ∧ i.email = owner.email ∧ i.sessionId = id ∧
        i.roles.Pairwise (· < ·) ∧
        ∀ n, n ∈ i.roles ↔ n ≠ "" ∧ ∃ r ∈ w.users.rolesOf row.userId, r.name = n) ∧
    ((¬ ∃ raw id row owner, Cookie.value? name hs = some raw ∧ Uuid.ofText? raw = some id ∧
        w.Vouches id row owner) →
      ((authenticate name hs).run w).1 = .error .unauthorized) ∧
    ((authenticate name hs).run w).2 = w := by
  refine ⟨fun i => ?_, fun hno => ?_, authenticate_onlyLooks name hs w⟩
  · constructor
    · intro hi
      obtain ⟨id, hid⟩ := exists_presented_of_passes hi
      obtain ⟨raw, hraw, hparse⟩ := presented?_eq_some_iff.1 hid
      obtain ⟨-, row, owner, hv, rfl⟩ := (authenticate_succeeds_iff hid i).1 hi
      have hkey : row.id = id := Table.key_of_get? hv.stored
      have hasc := Role.names_pairwise_lt (hreach.rolesAscend row.userId)
      exact ⟨raw, id, row, owner, hraw, hparse, hv, rfl, rfl, hkey, hasc, fun _ => Role.mem_names⟩
    · rintro ⟨raw, id, row, owner, hraw, hparse, hv, huser, hemail, hsession, hasc, hmem⟩
      have hid : presented? name hs = some id := presented?_eq_some_iff.2 ⟨raw, hraw, hparse⟩
      have hkey : row.id = id := Table.key_of_get? hv.stored
      -- a list of names in strictly ascending order is determined by its members
      have hroles : i.roles = Role.names (w.users.rolesOf row.userId) :=
        eq_of_ascending hasc (Role.names_pairwise_lt (hreach.rolesAscend row.userId))
          fun n => (hmem n).trans Role.mem_names.symm
      have hsame : i = identityOf w row owner := by
        cases i
        simp_all [identityOf]
      exact (authenticate_succeeds_iff hid i).2 ⟨.of_healthy hw, row, owner, hv, hsame⟩
  · rw [run_authenticate_of_not_vouches hw]
    rintro ⟨id, row, owner, hid, hv⟩
    obtain ⟨raw, hraw, hparse⟩ := presented?_eq_some_iff.1 hid
    exact hno ⟨raw, id, row, owner, hraw, hparse, hv⟩

/-- The user of the small world passes with the session as a cookie, and without the role that has
no name; nobody passes with no cookie. -/
theorem authenticate_small :
    World.small.Reachable ∧ World.small.Healthy ∧
      ((authenticate "session_id" [⟨"Cookie", Text.utf8
        "theme=dark; session_id=00000000-0000-0000-0000-000000000005"⟩]).run World.small).1 =
          .ok ⟨World.lodger.id, "a@b.com", ["user"], World.stay.id⟩ ∧
      ((authenticate "session_id" []).run World.small).1 = .error .unauthorized := by
  have hvouches : World.small.Vouches World.stay.id World.stay World.lodger :=
    ⟨by decide, rfl, by decide, by decide, rfl, rfl⟩
  have hroles : Role.names (World.small.users.rolesOf World.lodger.id) = ["user"] := by decide
  refine ⟨World.small_reachable, World.small_healthy, ?_, ?_⟩
  · refine ((authenticate_eq_ok_iff World.small_reachable World.small_healthy _ _).1 _).2
      ⟨"00000000-0000-0000-0000-000000000005", World.stay.id, World.stay, World.lodger, by decide,
        by decide, hvouches, rfl, rfl, rfl, by decide, fun n => ?_⟩
    exact hroles ▸ Role.mem_names
  · refine (authenticate_eq_ok_iff World.small_reachable World.small_healthy _ _).2.1 ?_
    rintro ⟨raw, id, row, owner, hraw, -⟩
    cases hraw

end Guard

end SessionAuth
