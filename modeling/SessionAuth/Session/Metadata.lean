import SessionAuth.Text.Blank

/-!
# Client metadata

A session row remembers, for audit, which client it was issued to: the user agent and the
address, both as text and both optional. Before they are stored they are trimmed, dropped if
nothing is left, and cut at the width of their column, counted in characters.
-/

set_option autoImplicit false

namespace SessionAuth

/-- What is known about the client of a login. -/
structure Metadata where
  userAgent : Option String := none
  ipAddress : Option String := none
  deriving DecidableEq, Repr

namespace Metadata

def maxUserAgent : Nat := 512

def maxIpAddress : Nat := 64

/-- Trims a value and cuts it to `width` characters; a blank value is no value. -/
def clean (width : Nat) (value : Option String) : Option String :=
  match value with
  | none => none
  | some s =>
    let cs := Text.trim s.toList
    if cs.isEmpty then none else some (String.ofList (cs.take width))

/-- The form in which metadata is stored. -/
def normalized (m : Metadata) : Metadata :=
  ⟨clean maxUserAgent m.userAgent, clean maxIpAddress m.ipAddress⟩

end Metadata

end SessionAuth
