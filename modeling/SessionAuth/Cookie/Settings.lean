/-!
# Settings of the session cookie

How the session cookie is named and how far a client may send it. For development over plain HTTP
the settings are relaxed: the cookie need not travel encrypted, the strictest same-site rule
becomes the lax one, and no domain is named.
-/

set_option autoImplicit false

namespace SessionAuth

/-- Which requests from other sites carry the cookie. -/
inductive SameSite where
  | strict
  | lax
  | none
  deriving DecidableEq, Repr

namespace SameSite

def label : SameSite → String
  | strict => "Strict"
  | lax => "Lax"
  | none => "None"

def all : List SameSite := [strict, lax, none]

end SameSite

structure CookieSettings where
  name : String := "session_id"
  secure : Bool := true
  sameSite : SameSite := .strict
  domain : Option String := none
  deriving DecidableEq, Repr

namespace CookieSettings

def relaxed (s : CookieSettings) : CookieSettings :=
  { s with
    secure := false
    sameSite := match s.sameSite with
      | .strict => .lax
      | other => other
    domain := none }

end CookieSettings

end SessionAuth
