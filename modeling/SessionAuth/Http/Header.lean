import SessionAuth.Text.Word

/-!
# Headers

A request carries a list of headers in the order in which they arrived; a name may occur more
than once and its case does not matter. A value is a row of bytes. Only values of visible ASCII,
blanks and tabs among them, are read as text; a value that is written must hold no control
character but the tab.
-/

set_option autoImplicit false

namespace SessionAuth

structure Header where
  name : String
  value : List UInt8
  deriving DecidableEq, Repr

abbrev Headers := List Header

namespace Header

def isNamed (name : String) (h : Header) : Bool := Text.sameWord h.name name

/-- The byte is visible ASCII, a blank or a tab. -/
def isVisible (b : UInt8) : Bool := (0x20 ≤ b && b < 0x7F) || b == 0x09

/-- A value as text, if all of it is visible. -/
def visible? (value : List UInt8) : Option (List Char) :=
  if value.all isVisible then some (value.map fun b => Char.ofNat b.toNat) else none

/-- The character may stand in a value that is written. -/
def isWritable (c : Char) : Bool := (0x20 ≤ c.toNat && c.toNat != 0x7F) || c == '\t'

end Header

namespace Headers

def getAll (hs : Headers) (name : String) : List (List UInt8) :=
  (hs.filter (Header.isNamed name)).map Header.value

def get? (hs : Headers) (name : String) : Option (List UInt8) := (hs.getAll name).head?

end Headers

end SessionAuth
