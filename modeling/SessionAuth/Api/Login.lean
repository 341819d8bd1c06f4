import SessionAuth.Api.Messages
import SessionAuth.Cookie.Writing
import SessionAuth.Email
import SessionAuth.Http.MediaType
import SessionAuth.Http.Message
import SessionAuth.Service.Authentication

/-!
# Logging in over HTTP

A login is a JSON body with an email and a password. Before anything is looked up, the body has to
be announced as JSON, to be of bounded length, to hold a login, and the login has to have the form
of one; each of these is refused as an invalid request. Then the credentials decide. The answer
hands out the new session in a cookie and tells the client who it is logged in as.

The session row remembers the client by its user agent and its address. The address is the other
end of the connection; a deployment behind a proxy may trust the first hop that the forwarding
header names instead.
-/

set_option autoImplicit false

namespace SessionAuth.Login

def maxBody : Nat := 2097152

def announcesJson (hs : Headers) : Bool :=
  (((hs.get? "content-type").bind Header.visible?).bind MediaType.read?).any MediaType.isJson

/-- The wording for a body that cannot be read. -/
def troubleText : Json.Trouble → String
  | .mismatch => "Failed to deserialize the JSON body into the target type"
  | .malformed | .truncated => "Failed to parse the request body as JSON"

/-- The login that a request brings. What follows the JSON value in the body is not looked at. -/
def readBody (r : Request) : Except Fault LoginRequest :=
  if !announcesJson r.headers then
    .error (.invalidRequest "Expected request with \x60Content-Type: application/json\x60")
  else if maxBody < r.body.length then
    .error (.invalidRequest "Failed to buffer the request body: length limit exceeded")
  else (Json.readFirst LoginRequest.decode r.body).mapError fun t => .invalidRequest (troubleText t)

/-- The login that a request brings, with its email trimmed, if it has the form of one. -/
def accept (r : Request) : Except Fault LoginRequest := do
  let login ← readBody r
  let email := Text.trimmed login.email
  Email.checkLogin email login.password
  return { login with email }

/-- The first hop that the forwarding header names, unless it is blank. -/
def forwardedFor? (hs : Headers) : Option String := do
  let hops ← (hs.get? "x-forwarded-for").bind Header.visible?
  let hop := Text.trim ((Text.splitAt ',' hops).headD [])
  if hop.isEmpty then none else some (String.ofList hop)

def clientAddress (trustForwardedFor : Bool) (r : Request) : Option String :=
  let peer := r.peer.map Address.text
  if trustForwardedFor then (forwardedFor? r.headers).or peer else peer

/-- What a request says about its client. -/
def client (trustForwardedFor : Bool) (r : Request) : Metadata where
  userAgent := ((r.headers.get? "user-agent").bind Header.visible?).map String.ofList
  ipAddress := clientAddress trustForwardedFor r

/-- The answer that hands out a session. -/
def welcome (user : User) (cookie : String) : Response :=
  let summary : UserSummary := ⟨user.id, user.email, user.roleNames⟩
  let envelope : Envelope UserSummary := ⟨200, "Login successful", some summary⟩
  (Response.json 200 (envelope.toJson UserSummary.toJson)).withHeader "set-cookie" cookie

end SessionAuth.Login

namespace SessionAuth

def Service.login (s : Service) (r : Request) : Action Fault Response := do
  let login ← Action.ofExcept (Login.accept r)
  let (user, session) ←
    s.authenticate login.email login.password (Login.client s.auth.trustForwardedFor r)
  let cookie ← Action.ofExcept (s.auth.cookie.issue session (← Action.now))
  return Login.welcome user cookie

end SessionAuth
