/-!
# Words

Names in a protocol and words of a configuration are compared without regard to the case of ASCII
letters; all other characters have to agree.
-/

set_option autoImplicit false

namespace SessionAuth.Text

def lower (cs : List Char) : List Char := cs.map Char.toLower

/-- The texts are the same but for the case of ASCII letters. -/
def sameWord (a b : String) : Bool := lower a.toList == lower b.toList

/-- The first of some values whose word is the given one, in any case. -/
def choice? {α : Type} (label : α → String) (values : List α) (s : String) : Option α :=
  values.find? fun a => sameWord (label a) s

/-- Reads `true` or `false`, in lower case. -/
def flag? : String → Option Bool
  | "true" => some true
  | "false" => some false
  | _ => none

end SessionAuth.Text
