import SessionAuth.Cookie.Settings
import SessionAuth.Http.Header
import SessionAuth.Session.Basic
import SessionAuth.Time.HttpDate

/-!
# Writing the session cookie

The cookie's value is the bare identifier of the session; that it cannot be guessed is the whole
secret. A cookie is written as its pair of name and value followed by attributes, in a fixed
order. To hand out a session, the cookie lives as long as the session: to the whole second, and
never less than zero. To take it back, an empty cookie is written that expired an hour ago.
-/

set_option autoImplicit false

namespace SessionAuth.CookieSettings

/-- The pair of name and value, and the attributes after it. -/
def attributes (s : CookieSettings) (value : String) (expires : Instant) (maxAge : Int) :
    List String :=
  [s.name ++ "=" ++ value, "Path=/", "Expires=" ++ expires.httpDate,
    "Max-Age=" ++ Text.integerText maxAge, "HttpOnly"] ++
  (if s.secure then ["Secure"] else []) ++
  ["SameSite=" ++ s.sameSite.label] ++
  (match s.domain with
    | some domain => ["Domain=" ++ domain]
    | none => [])

/-- The text of a cookie, if it may stand in a header. -/
def write (s : CookieSettings) (value : String) (expires : Instant) (maxAge : Int) :
    Except Fault String :=
  let text := "; ".intercalate (s.attributes value expires maxAge)
  if text.toList.all Header.isWritable then .ok text
  else .error (.internal "invalid session cookie header: failed to parse header value")

/-- The whole seconds that a session has left, and zero after its end. -/
def maxAge (session : Session) (now : Instant) : Int :=
  max 0 (session.expiresAt.since now).seconds

/-- The cookie that hands out a session. -/
def issue (s : CookieSettings) (session : Session) (now : Instant) : Except Fault String :=
  s.write session.id.text session.expiresAt (maxAge session now)

/-- The cookie that takes a session back. -/
def clear (s : CookieSettings) (now : Instant) : Except Failure String :=
  match now.sub? (.ofHours 1) with
  | none => .error (.overflow .sub)
  | some past => (s.write "" past 0).mapError .fault

end SessionAuth.CookieSettings
