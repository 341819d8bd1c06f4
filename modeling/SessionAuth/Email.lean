import SessionAuth.Fault
import SessionAuth.Text.Blank
import SessionAuth.Text.Split

/-!
# Email addresses

An address is a local part, an at sign, and labels with full stops between them. No part is empty
and no character is a blank or a control character; there is one at sign. That is much less than
mail systems ask for, and all that a login is checked for.
-/

set_option autoImplicit false

namespace SessionAuth.Email

/-- The text has the form of an address. -/
def isAddress (cs : List Char) : Bool :=
  match Text.cutAt? '@' cs with
  | none => false
  | some (localPart, domain) =>
    !localPart.isEmpty && !domain.contains '@' &&
      cs.all (fun c => !Text.isBlank c && !Text.isControl c) &&
      (Text.splitAt '.' domain).all fun label => !label.isEmpty

def maxLength : Nat := 320

/-- A login is refused before any look-up unless it brings an address, trimmed already, and a
password. -/
def checkLogin (email password : String) : Except Fault Unit :=
  if email = "" ∨ password = "" then
    .error (.invalidRequest "email and password are required")
  else if maxLength < email.length then .error (.invalidRequest "email is too long")
  else if isAddress email.toList then .ok ()
  else .error (.invalidRequest "email is malformed")

end SessionAuth.Email
