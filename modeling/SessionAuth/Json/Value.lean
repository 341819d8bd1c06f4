/-!
# JSON values and their text

The service answers with JSON and writes it without blanks, the members of an object in the
order in which they are given. Inside a string the quote, the backslash and the control
characters are escaped, five of these by a letter and the others by number; every other character
stands for itself.
-/

set_option autoImplicit false

namespace SessionAuth

/-- A JSON value of the kinds that the service writes. -/
inductive Json where
  | null
  | bool (b : Bool)
  | number (n : Nat)
  | string (s : String)
  | array (items : List Json)
  | object (members : List (String × Json))

namespace Json

/-- A character as it stands inside a string. -/
def escaped (c : Char) : List Char :=
  match c with
  | '"' => ['\\', '"']
  | '\\' => ['\\', '\\']
  | '\x08' => ['\\', 'b']
  | '\t' => ['\\', 't']
  | '\n' => ['\\', 'n']
  | '\x0c' => ['\\', 'f']
  | '\r' => ['\\', 'r']
  | c =>
    if c.toNat < 0x20 then
      ['\\', 'u', '0', '0', Nat.digitChar (c.toNat / 16), Nat.digitChar (c.toNat % 16)]
    else [c]

def quoted (s : String) : List Char := '"' :: s.toList.flatMap escaped ++ ['"']

mutual

def chars : Json → List Char
  | null => ['n', 'u', 'l', 'l']
  | bool true => ['t', 'r', 'u', 'e']
  | bool false => ['f', 'a', 'l', 's', 'e']
  | number n => Nat.toDigits 10 n
  | string s => quoted s
  | array [] => ['[', ']']
  | array (j :: js) => '[' :: (j.chars ++ itemsChars js)
  | object [] => ['\x7b', '\x7d']
  | object ((k, j) :: ms) => '\x7b' :: (quoted k ++ ':' :: (j.chars ++ membersChars ms))

/-- The text of the items after the first, up to the end of their array. -/
def itemsChars : List Json → List Char
  | [] => [']']
  | j :: js => ',' :: (j.chars ++ itemsChars js)

/-- The text of the members after the first, up to the end of their object. -/
def membersChars : List (String × Json) → List Char
  | [] => ['\x7d']
  | (k, j) :: ms => ',' :: (quoted k ++ ':' :: (j.chars ++ membersChars ms))

end

def text (j : Json) : String := String.ofList j.chars

/-- A string, or null where there is none. -/
def ofString? : Option String → Json
  | some s => string s
  | none => null

end Json

end SessionAuth
