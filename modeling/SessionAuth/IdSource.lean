import SessionAuth.Uuid

/-!
# Sources of identifiers

A source hands out identifiers one by one: first those it was given, in order, and after them
numbered ones, `00000000-0000-4000-8000-000000000001` and so on, which have the form of random
identifiers of version 4.
-/

set_option autoImplicit false

namespace SessionAuth

/-- A source by what it will still hand out. -/
structure IdSource where
  /-- The identifiers to hand out first. -/
  given : List Uuid := []
  /-- How many numbered identifiers have been handed out. -/
  counter : Nat := 0

namespace IdSource

/-- The numbered identifier, whose last twelve digits write the number. -/
def numbered (n : Nat) : Uuid := .ofNat (0x40008000000000000000 + n % 0x1000000000000)

def next (s : IdSource) : Uuid × IdSource :=
  match s.given with
  | id :: rest => (id, { s with given := rest })
  | [] => (numbered (s.counter + 1), { s with counter := s.counter + 1 })

end IdSource

end SessionAuth
