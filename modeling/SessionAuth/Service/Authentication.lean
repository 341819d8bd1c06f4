import SessionAuth.Config
import SessionAuth.Service.Program

/-!
# Logging in and out

An email and a password are exchanged for a session. Every way in which the credentials can be
wrong, a switched-off account among them, ends in the same refusal; the password is checked before
anything is said about the account. Storing or revoking a session can only fail for a reason of
the machinery, and any fault met there is reported as one.

How a password is checked against a stored digest is a parameter of the service.
-/

set_option autoImplicit false

namespace SessionAuth

/-- A running service: how sessions are issued, and how a password is checked. -/
structure Service where
  auth : AuthConfig
  /-- The digest is one of the password. -/
  verify : (digest : String) → (password : String) → Bool

namespace Service

/-- How long a session lives; a configured span that is not positive stands for seven days. -/
def sessionTtl (s : Service) : Span :=
  if 0 < s.auth.sessionTtl.nanos then s.auth.sessionTtl else .ofDays 7

/-- The user with these credentials, without roles. -/
def checkCredentials (s : Service) (email password : String) : Action Fault User := do
  match ← Action.findByEmail email with
  | none => throw .invalidCredentials
  | some u =>
    if s.verify u.passwordDigest password && u.isActive then return u
    else throw .invalidCredentials

/-- Stores a new session for a user. No identifier is drawn if the session would expire off the
calendar. -/
def issueSession (s : Service) (userId : Uuid) (client : Metadata) : Action Fault Session := do
  let now ← Action.now
  match now.add? s.sessionTtl with
  | none =>
    throw <| .internal <| "session ttl " ++ s.sessionTtl.text ++ " overflows the expiry timestamp"
  | some expiry =>
    let id ← Action.freshId
    let session := (Session.fresh id userId now expiry).withClient client.normalized
    (Action.createSession session).mapError Fault.toInternal

/-- The user with these credentials, with roles, and a new session. -/
def authenticate (s : Service) (email password : String) (client : Metadata) :
    Action Fault (User × Session) := do
  let email := Text.trimmed email
  if email = "" ∨ password = "" then throw .invalidCredentials
  let user ← s.checkCredentials email password
  let roles ← Action.listRoles user.id
  let session ← s.issueSession user.id client
  return ({ user with roles }, session)

/-- Revokes a session as of now; one that is unknown or revoked already is no fault. -/
def revoke (id : Uuid) : Action Fault Unit := do
  let now ← Action.now
  (Action.revokeSession id now).mapError Fault.toInternal

def logout (id : Uuid) : Action Fault Unit := revoke id

end Service

end SessionAuth
