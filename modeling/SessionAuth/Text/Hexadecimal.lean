/-!
# Hexadecimal digits

A digit is a number below sixteen. It is written in lower case and read in either case.
-/

set_option autoImplicit false

namespace SessionAuth.Text

/-- The lower-case character of a digit. -/
def hexChar (d : Fin 16) : Char := Char.ofNat (if d.val < 10 then 48 + d.val else 87 + d.val)

/-- The last digit of a number. -/
def hexOfNat (n : Nat) : Fin 16 := ⟨n % 16, Nat.mod_lt n (by decide)⟩

/-- The digit of a character of either case. -/
def hexDigit? (c : Char) : Option (Fin 16) :=
  let n := c.toNat
  if 48 ≤ n ∧ n ≤ 57 then some (hexOfNat (n - 48))
  else if 97 ≤ n ∧ n ≤ 102 then some (hexOfNat (n - 87))
  else if 65 ≤ n ∧ n ≤ 70 then some (hexOfNat (n - 55))
  else none

@[simp] theorem hexDigit?_hexChar (d : Fin 16) : hexDigit? (hexChar d) = some d := by
  revert d; decide

end SessionAuth.Text
