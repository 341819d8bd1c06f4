import SessionAuth.Crypto.Base64
import SessionAuth.Text.Decimal
import SessionAuth.Text.Split

/-!
# Digests of passwords as text

A digest of a password is stored as a text of fields with a dollar sign in front of each, such as

    $argon2id$v=19$m=19456,t=2,p=1$c29tZXNhbHRzb21lc2FsdA$Zm9yIGV4YW1wbGUgb25seQ

It names the algorithm, its version, its parameters, the salt and the output. The version and the
parameters are told by their equals signs and may be left out, as may the output, and the salt
with it. The salt stands as it is and the output in base 64.
-/

set_option autoImplicit false

namespace SessionAuth

structure PasswordDigest where
  algorithm : List Char
  version : Option Nat
  parameters : List (List Char × List Char)
  salt : Option (List Char)
  output : Option (List UInt8)
  deriving DecidableEq

namespace PasswordDigest

/-! ## Reading -/

/-- The word is a name: up to 32 lower-case letters, digits and hyphens. -/
def isName (cs : List Char) : Bool :=
  1 ≤ cs.length && cs.length ≤ 32 &&
    cs.all fun c => Text.isDigit c || c.isLower || c == '-'

def isValueChar (c : Char) : Bool := c.isAlphanum || "/+.-".toList.contains c

/-- The word is a value of up to 64 characters. -/
def isValue (cs : List Char) : Bool := cs.length ≤ 64 && cs.all isValueChar

/-- Reads a value as a number of 32 bits without zeros in front. -/
def number? (cs : List Char) : Option Nat :=
  if cs.length ≤ 64 ∧ (cs.length = 1 ∨ cs.head? ≠ some '0') then
    Text.naturalBelow? UInt32.size cs
  else none

/-- Reads a parameter, which is a name and a value with the only equals sign between them. -/
def parameter? (cs : List Char) : Option (List Char × List Char) :=
  match Text.cutAt? '=' cs with
  | some (name, value) => if isName name && isValue value then some (name, value) else none
  | none => none

/-- Reads parameters between commas, of at most 127 characters together. -/
def parameters? (cs : List Char) : Option (List (List Char × List Char)) :=
  if cs.length ≤ 127 then (Text.splitAt ',' cs).mapM parameter? else none

/-- Reads the field of the version, if it is there. -/
def takeVersion : List (List Char) → Option (Option Nat × List (List Char))
  | ('v' :: '=' :: cs) :: fields =>
    if ',' ∈ cs then some (none, ('v' :: '=' :: cs) :: fields)
    else (number? cs).map fun n => (some n, fields)
  | fields => some (none, fields)

/-- Reads the field of the parameters, if it is there. -/
def takeParameters : List (List Char) →
    Option (List (List Char × List Char) × List (List Char))
  | field :: fields =>
    if '=' ∈ field then (parameters? field).map fun ps => (ps, fields)
    else some ([], field :: fields)
  | [] => some ([], [])

/-- Reads a salt of 4 to 64 characters. -/
def salt? (cs : List Char) : Option (List Char) :=
  if 4 ≤ cs.length && isValue cs then some cs else none

/-- Reads an output of 10 to 64 bytes. -/
def output? (cs : List Char) : Option (List UInt8) :=
  (Crypto.Base64.decode? cs).filter fun bs => 10 ≤ bs.length && bs.length ≤ 64

def takeEnd : List (List Char) → Option (Option (List Char) × Option (List UInt8))
  | [] => some (none, none)
  | [s] => (salt? s).map fun salt => (some salt, none)
  | [s, o] => do
    let salt ← salt? s
    let output ← output? o
    return (some salt, some output)
  | _ => none

def read? (cs : List Char) : Option PasswordDigest :=
  match Text.splitAt '$' cs with
  | [] :: algorithm :: fields => do
    let (version, fields) ← takeVersion fields
    let (parameters, fields) ← takeParameters fields
    let (salt, output) ← takeEnd fields
    if isName algorithm then return { algorithm, version, parameters, salt, output } else none
  | _ => none

/-! ## Writing -/

def parameterChars (p : List Char × List Char) : List Char := p.1 ++ '=' :: p.2

def fields (d : PasswordDigest) : List (List Char) :=
  [d.algorithm] ++
  (d.version.map fun n => 'v' :: '=' :: Text.digits n).toList ++
  (if d.parameters.isEmpty then []
    else [[','].intercalate (d.parameters.map parameterChars)]) ++
  d.salt.toList ++ (d.output.map Crypto.Base64.encode).toList

def chars (d : PasswordDigest) : List Char := d.fields.flatMap fun field => '$' :: field

end PasswordDigest

end SessionAuth
