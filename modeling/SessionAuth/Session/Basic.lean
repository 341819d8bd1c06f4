import SessionAuth.Time.Instant
import SessionAuth.Uuid
import SessionAuth.Session.Metadata
import SessionAuth.Fault

/-!
# Sessions

A session is a row that gives one user access until it expires or is revoked. The row keeps its
own history: when it was stored, when it expires, and when it was revoked, if it was. A session is
active at an instant if it has not been revoked and the instant lies strictly before its expiry.
-/

set_option autoImplicit false

namespace SessionAuth

structure Session where
  id : Uuid
  userId : Uuid
  expiresAt : Instant
  revokedAt : Option Instant
  createdAt : Instant
  userAgent : Option String
  ipAddress : Option String
  deriving DecidableEq

namespace Session

/-- A session that is not revoked, of a client of whom nothing is known. -/
def fresh (id userId : Uuid) (now expiry : Instant) : Session :=
  ⟨id, userId, expiry, none, now, none, none⟩

/-- A session that expires a span after `now`, unless that is off the calendar. -/
def start (id userId : Uuid) (now : Instant) (ttl : Span) : Except Overflow Session :=
  match now.add? ttl with
  | none => .error .add
  | some expiry => .ok (fresh id userId now expiry)

/-- The session with what is known about its client. -/
def withClient (s : Session) (m : Metadata) : Session :=
  { s with userAgent := m.userAgent, ipAddress := m.ipAddress }

def isRevoked (s : Session) : Bool := s.revokedAt.isSome

def isActiveAt (s : Session) (now : Instant) : Bool := !s.isRevoked && decide (now < s.expiresAt)

theorem isActiveAt_iff {s : Session} {now : Instant} :
    s.isActiveAt now = true ↔ s.revokedAt = none ∧ now < s.expiresAt := by
  simp [isActiveAt, isRevoked]

end Session

end SessionAuth
