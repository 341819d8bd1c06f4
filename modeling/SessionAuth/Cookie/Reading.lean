import SessionAuth.Cookie.Settings
import SessionAuth.Http.Header
import SessionAuth.Text.Blank
import SessionAuth.Text.Split

/-!
# Reading the session cookie

A request may carry several `Cookie` headers, each with several segments between semicolons. The
first segment with an equals sign whose name, trimmed, is the cookie's name decides; headers that
are not visible text are passed over. The value is trimmed and loses the quotes around it; an
empty value is no cookie, even if the name occurs again.
-/

set_option autoImplicit false

namespace SessionAuth.Cookie

/-- The segments of the readable `Cookie` headers, in order. -/
def segments (hs : Headers) : List (List Char) :=
  ((hs.getAll "cookie").filterMap Header.visible?).flatMap (Text.splitAt ';')

/-- The name and the value of a segment, if it has an equals sign. -/
def pair? (segment : List Char) : Option (List Char × List Char) :=
  Text.cutAt? '=' (Text.trim segment)

def unquoted (cs : List Char) : List Char :=
  ((cs.dropWhile (· == '"')).reverse.dropWhile (· == '"')).reverse

/-- The value of a segment, if its name is the given one. -/
def valueOf? (name : String) (segment : List Char) : Option (List Char) :=
  match pair? segment with
  | some (n, v) => if Text.trim n = name.toList then some (unquoted (Text.trim v)) else none
  | none => none

/-- The value that the deciding segment gives to a name, if it is not empty. -/
def value? (name : String) (hs : Headers) : Option String :=
  match (segments hs).findSome? (valueOf? name) with
  | some v => if v.isEmpty then none else some (String.ofList v)
  | none => none

end SessionAuth.Cookie

namespace SessionAuth.CookieSettings

def read (s : CookieSettings) (hs : Headers) : Option String := Cookie.value? s.name hs

end SessionAuth.CookieSettings
