import SessionAuth.Cookie.Reading
import SessionAuth.Service.Program

/-!
# The guard

The guard finds out who sends a request. It reads the session cookie, looks up the session and
then its owner, and grants an identity only if the session is active and the owner's account is
neither deleted nor switched off. It remembers nothing from one request to the next, so that what
was revoked a moment ago does not count any more. Every refusal is the same; a fault of a store
passes as it is.
-/

set_option autoImplicit false

namespace SessionAuth

/-- Who sends a request, as verified by the guard. -/
structure Identity where
  userId : Uuid
  email : String
  roles : List String
  sessionId : Uuid
  deriving DecidableEq

namespace Guard

/-- The value there is, or a refusal. -/
def require {α : Type} : Option α → Action Fault α
  | some a => pure a
  | none => throw .unauthorized

/-- The session identifier that a request presents under a cookie name. -/
def presented? (cookieName : String) (hs : Headers) : Option Uuid :=
  (Cookie.value? cookieName hs).bind Uuid.ofText?

/-- The identity behind the session with an identifier. -/
def resolve (sessionId : Uuid) : Action Fault Identity := do
  let session ← require (← Action.findActiveSession sessionId)
  let owner ← Action.findById session.userId
  let user ← require (owner.filter User.isActive)
  let roles ← Action.listRoles user.id
  return ⟨user.id, user.email, Role.names roles, session.id⟩

def authenticate (cookieName : String) (hs : Headers) : Action Fault Identity := do
  resolve (← require (presented? cookieName hs))

end Guard

end SessionAuth
