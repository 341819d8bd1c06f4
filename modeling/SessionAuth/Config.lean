import SessionAuth.Cookie.Settings
import SessionAuth.Text.Blank
import SessionAuth.Text.Decimal
import SessionAuth.Text.Quoted
import SessionAuth.Text.Word
import SessionAuth.Time.Span

/-!
# Configuration

A deployment is configured by named variables. Values are trimmed, and a blank value counts as
none, so that every variable may be left out. The variables are looked at in a fixed order, and
the first one with an unusable value is named: by its text if that cannot be read, by its number
if that is out of range.
-/

set_option autoImplicit false

namespace SessionAuth

inductive Environment where
  | dev
  | staging
  | prod
  deriving DecidableEq, Repr

namespace Environment

def label : Environment → String
  | dev => "dev"
  | staging => "staging"
  | prod => "prod"

def all : List Environment := [dev, staging, prod]

end Environment

def Environment.ofText? (s : String) : Option Environment := Text.choice? label all s

def SameSite.ofText? (s : String) : Option SameSite := Text.choice? label all s

/-- A variable has an unusable value. -/
structure ConfigError where
  key : String
  value : String
  deriving DecidableEq, Repr

def ConfigError.message (e : ConfigError) : String :=
  "invalid value for " ++ e.key ++ ": " ++ e.value

/-- How sessions are issued. -/
structure AuthConfig where
  sessionTtl : Span := .ofDays 7
  cookie : CookieSettings := {}
  /-- The client's address is taken from the forwarding header, not from the connection. -/
  trustForwardedFor : Bool := false
  deriving DecidableEq, Repr

/-- The credentials of the administrator to be seeded. -/
structure SeedAdmin where
  email : String
  password : String
  deriving DecidableEq, Repr

/-- The operator's view of the credentials, which hides the password. -/
def SeedAdmin.display (s : SeedAdmin) : String :=
  "SeedAdmin \x7b email: " ++ Text.quoted s.email ++ ", password: " ++
    Text.quoted "<redacted>" ++ " \x7d"

structure Config where
  environment : Environment
  host : String
  port : Nat
  postgresDsn : Option String
  auth : AuthConfig
  requestTimeoutSeconds : Nat
  seedAdmin : Option SeedAdmin
  deriving DecidableEq, Repr

namespace Config

abbrev Lookup := String → Option String

/-- The trimmed value of a variable; a blank value is none. -/
def value? (vars : Lookup) (key : String) : Option String :=
  ((vars key).map Text.trimmed).filter fun s => s != ""

/-- The value of a variable as read by `read?`, or a default if it has none. -/
def parsed {α : Type} (vars : Lookup) (key : String) (read? : String → Option α) (default : α) :
    Except ConfigError α :=
  match value? vars key with
  | none => .ok default
  | some s =>
    match read? s with
    | some a => .ok a
    | none => .error ⟨key, s⟩

/-- A number is in range, or its decimal numeral is blamed. -/
def inRange (key : String) (n : Int) (ok : Prop) [Decidable ok] : Except ConfigError Unit :=
  if ok then .ok () else .error ⟨key, Text.integerText n⟩

/-- The longest life of a session that may be configured is 366 days. -/
def maxTtlSeconds : Int := 366 * 86400

/-- The configuration that some variables describe. -/
def ofLookup (vars : Lookup) : Except ConfigError Config := do
  let environment ← parsed vars "SYNTHEMA_ENV" Environment.ofText? .prod
  let port ← parsed vars "SYNTHEMA_API_PORT" Text.signed64? 8080
  inRange "SYNTHEMA_API_PORT" port (1 ≤ port ∧ port ≤ 65535)
  let ttl ← parsed vars "SYNTHEMA_AUTH_SESSION_TTL_SECONDS" Text.signed64? 0
  inRange "SYNTHEMA_AUTH_SESSION_TTL_SECONDS" ttl (ttl ≤ maxTtlSeconds)
  let secure ← parsed vars "SYNTHEMA_AUTH_COOKIE_SECURE" Text.flag? true
  let sameSite ← parsed vars "SYNTHEMA_AUTH_COOKIE_SAMESITE" SameSite.ofText? .strict
  let trustForwardedFor ← parsed vars "SYNTHEMA_TRUST_FORWARDED_FOR" Text.flag? false
  let timeout ← parsed vars "SYNTHEMA_REQUEST_TIMEOUT_SECONDS" Text.unsigned64? 30
  let cookie : CookieSettings :=
    { name := (value? vars "SYNTHEMA_AUTH_COOKIE_NAME").getD "session_id"
      secure, sameSite
      domain := value? vars "SYNTHEMA_AUTH_COOKIE_DOMAIN" }
  let seedAdmin :=
    match value? vars "SYNTHEMA_SEED_ADMIN_EMAIL", value? vars "SYNTHEMA_SEED_ADMIN_PASSWORD" with
    | some email, some password => some ⟨email, password⟩
    | _, _ => none
  return {
    environment
    host := (value? vars "SYNTHEMA_API_HOST").getD "0.0.0.0"
    port := port.toNat
    postgresDsn := value? vars "SYNTHEMA_POSTGRES_DSN"
    auth := {
      sessionTtl := if 0 < ttl then .ofSeconds ttl else .ofDays 7
      cookie := if environment = .dev then cookie.relaxed else cookie
      trustForwardedFor }
    requestTimeoutSeconds := max 1 timeout
    seedAdmin }

def listenAddress (c : Config) : String := c.host ++ ":" ++ Text.integerText c.port

end Config

end SessionAuth
