import SessionAuth.Api.Login
import SessionAuth.Service.Guard

/-!
# Routes

Every endpoint has a path, a method and a handler, and most of them stand behind the guard, which
hands the identity it has verified to the handler. A handler that needs an identity and gets none
has been wired up wrongly; that is an internal fault.

A request finds its endpoint by its exact path. With the endpoint's own method it is handled. An
endpoint for `GET` also takes `HEAD`: the request is handled all the same and the body of the
answer is left out. Any other method is not allowed, and the answer says which ones are; behind
the guard even this is said only to those who pass, but a refusal says it too.
-/

set_option autoImplicit false

namespace SessionAuth

inductive Verb where
  | get
  | post
  deriving DecidableEq, Repr

namespace Verb

def label : Verb → String
  | get => "GET"
  | post => "POST"

/-- The methods that an endpoint takes. -/
def allowed : Verb → String
  | get => "GET,HEAD"
  | post => "POST"

end Verb

inductive Handler where
  | health
  | login
  | logout
  | me
  /-- Stands for whatever the service protects. -/
  | sample
  deriving DecidableEq, Repr

namespace Handler

/-- The identity that the guard has handed over. -/
def expect (who : Option Identity) : Except Fault Identity :=
  match who with
  | some i => .ok i
  | none => .error (.internal "identity context missing")

def success (message : String) (data : Option Json) : Response :=
  let envelope : Envelope Json := ⟨200, message, data⟩
  .json 200 (envelope.toJson id)

/-- What the client is told about itself. -/
def summary (i : Identity) : UserSummary := ⟨i.userId, i.email, i.roles⟩

/-- Ends the session of the identity and takes the cookie back. -/
def signOut (s : Service) (i : Identity) : Action Failure Response := do
  (Service.logout i.sessionId).mapError .fault
  let cookie ← Action.ofExcept (s.auth.cookie.clear (← Action.now))
  return (success "Logout successful" none).withHeader "set-cookie" cookie

/-- Does the work of an endpoint for an identity, if there is one. -/
def handle (s : Service) (who : Option Identity) (r : Request) :
    Handler → Action Failure Response
  | health => return .json 200 (.object [("status", .string "ok")])
  | login => (s.login r).mapError .fault
  | logout => do signOut s (← Action.ofExcept ((expect who).mapError .fault))
  | me => do
    let i ← Action.ofExcept ((expect who).mapError .fault)
    return success "Authenticated user" (some (summary i).toJson)
  | sample => do
    let i ← Action.ofExcept ((expect who).mapError .fault)
    return success "Protected access granted"
      (some (.object [("user_id", .string i.userId.text)]))

end Handler

structure Endpoint where
  path : String
  verb : Verb
  handler : Handler
  guarded : Bool
  deriving DecidableEq, Repr

namespace Endpoint

def all : List Endpoint :=
  [⟨"/healthz", .get, .health, false⟩,
    ⟨"/api/v1/auth/login", .post, .login, false⟩,
    ⟨"/api/v1/auth/logout", .post, .logout, true⟩,
    ⟨"/api/v1/auth/me", .get, .me, true⟩,
    ⟨"/api/v1/protected", .get, .sample, true⟩]

/-- The identity that the guard hands over, if the endpoint stands behind it. -/
def identify (e : Endpoint) (s : Service) (r : Request) : Action Failure (Option Identity) :=
  if e.guarded then
    some <$> (Guard.authenticate s.auth.cookie.name r.headers).mapError .fault
  else pure none

/-- An action whose faults have become answers. -/
def settle (x : Action Failure Response) : Action Overflow Response :=
  ExceptT.mk <| ExceptT.run x >>= fun
    | .ok response => .done (.ok response)
    | .error (.fault f) => .done (.ok (.ofFault f))
    | .error (.overflow o) => .done (.error o)

/-- Handles a request of a method that the endpoint takes. -/
def serve (e : Endpoint) (s : Service) (r : Request) : Action Overflow Response :=
  settle do e.handler.handle s (← e.identify s r) r

/-- Answers a request of a method that the endpoint does not take. -/
def reject (e : Endpoint) (s : Service) (r : Request) : Action Overflow Response := do
  let response ← settle do
    let _ ← e.identify s r
    return { status := 405 }
  return response.withHeader "allow" e.verb.allowed

def respond (e : Endpoint) (s : Service) (r : Request) : Action Overflow Response :=
  if r.method = e.verb.label then e.serve s r
  else if r.method = "HEAD" ∧ e.verb = .get then Response.withoutBody <$> e.serve s r
  else e.reject s r

end Endpoint

namespace Service

/-- Answers a request at one of some endpoints. -/
def respondAt (s : Service) (endpoints : List Endpoint) (r : Request) :
    Action Overflow Response :=
  match endpoints.find? fun e => e.path == r.path with
  | some e => e.respond s r
  | none => return { status := 404 }

def respond (s : Service) (r : Request) : Action Overflow Response := s.respondAt Endpoint.all r

end Service

end SessionAuth
