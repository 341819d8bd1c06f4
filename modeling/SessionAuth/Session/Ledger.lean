import SessionAuth.Session.Basic
import SessionAuth.Table

/-!
# The ledger of sessions

The ledger holds every session that was ever stored, told apart by its identifier. A row is never
taken out, and after it was stored only one thing about it changes, once: it is revoked. Whether a
row is active is judged by the clock at the moment of looking.
-/

set_option autoImplicit false

namespace SessionAuth

abbrev Ledger := Table Session.id

namespace Ledger

def empty : Ledger := Table.empty Session.id

/-- Stores a session, stamped with the present instant, and returns it as stored. -/
def create (l : Ledger) (s : Session) (now : Instant) : Except Fault (Session × Ledger) :=
  match l.get? s.id with
  | some _ => .error (.database "Session already exists")
  | none =>
    let stored := { s with createdAt := now }
    .ok (stored, l.put stored)

/-- The session with an identifier, if it is active now. -/
def findActive (l : Ledger) (id : Uuid) (now : Instant) : Option Session :=
  (l.get? id).filter fun s => s.isActiveAt now

/-- Revokes a session; one that is revoked already keeps its stamp, and an unknown one is passed
over. -/
def revoke (l : Ledger) (id : Uuid) (stamp : Instant) : Ledger :=
  match l.get? id with
  | some s => if s.isRevoked then l else l.put { s with revokedAt := some stamp }
  | none => l

theorem findActive_eq_some_iff {l : Ledger} {id : Uuid} {now : Instant} {s : Session} :
    l.findActive id now = some s ↔
      l.get? id = some s ∧ s.revokedAt = none ∧ now < s.expiresAt := by
  simp [findActive, Option.filter_eq_some_iff, Session.isActiveAt_iff]

end Ledger

end SessionAuth
