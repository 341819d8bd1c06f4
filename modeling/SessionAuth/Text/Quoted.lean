import SessionAuth.Text.Graphic

/-!
# Quoted text

Text for an operator's eyes stands in double quotes. The quote and the backslash get a backslash
in front; tab, line feed, carriage return and NUL have letters of their own; every other
character that is not graphic is written by its code point in hexadecimal, in braces.
-/

set_option autoImplicit false

namespace SessionAuth.Text

/-- A character as it stands between quotes. -/
def escaped (c : Char) : List Char :=
  match c with
  | '"' => ['\\', '"']
  | '\\' => ['\\', '\\']
  | '\t' => ['\\', 't']
  | '\n' => ['\\', 'n']
  | '\r' => ['\\', 'r']
  | '\x00' => ['\\', '0']
  | c =>
    if isGraphic c then [c]
    else '\\' :: 'u' :: '\x7b' :: Nat.toDigits 16 c.toNat ++ ['\x7d']

/-- A string in double quotes. -/
def quoted (s : String) : String :=
  String.ofList ('"' :: s.toList.flatMap escaped ++ ['"'])

end SessionAuth.Text
