import SessionAuth.Text.Hexadecimal
import SessionAuth.Text.Word

/-!
# Universally unique identifiers

An identifier is a row of thirty-two hexadecimal digits. Its canonical text sets hyphens after
the eighth, twelfth, sixteenth and twentieth digit and uses lower case. The reader takes four
forms, in either case: the bare digits, the canonical text, the canonical text in braces, and the
canonical text after `urn:uuid:`.
-/

set_option autoImplicit false

namespace SessionAuth

/-- An identifier of thirty-two hexadecimal digits. -/
structure Uuid where
  digits : List (Fin 16)
  length_digits : digits.length = 32
  deriving DecidableEq

namespace Uuid

/-- The identifier with the given digits, if there are thirty-two. -/
def ofDigits? (ds : List (Fin 16)) : Option Uuid :=
  if h : ds.length = 32 then some ⟨ds, h⟩ else none

/-- Hyphens between groups of eight, four, four, four and twelve. -/
def hyphenate (cs : List Char) : List Char :=
  cs.take 8 ++ '-' :: (cs.drop 8).take 4 ++ '-' :: (cs.drop 12).take 4 ++
    '-' :: (cs.drop 16).take 4 ++ '-' :: cs.drop 20

def chars (u : Uuid) : List Char := hyphenate (u.digits.map Text.hexChar)

def text (u : Uuid) : String := String.ofList u.chars

def ofBare? (cs : List Char) : Option Uuid := (cs.mapM Text.hexDigit?).bind ofDigits?

def ofHyphenated? (cs : List Char) : Option Uuid :=
  let bare := cs.take 8 ++ (cs.drop 9).take 4 ++ (cs.drop 14).take 4 ++ (cs.drop 19).take 4 ++
    cs.drop 24
  let marks := (cs.drop 8).take 1 ++ (cs.drop 13).take 1 ++ (cs.drop 18).take 1 ++
    (cs.drop 23).take 1
  if marks = ['-', '-', '-', '-'] then ofBare? bare else none

/-- The characters in front of the form for resource names. -/
def urnMark : List Char := "urn:uuid:".toList

/-- Reads an identifier in any of its forms, which differ in length. -/
def ofChars? (cs : List Char) : Option Uuid :=
  match cs.length with
  | 32 => ofBare? cs
  | 36 => ofHyphenated? cs
  | 38 =>
    if cs.head? = some '{' ∧ cs.getLast? = some '}' then ofHyphenated? ((cs.drop 1).take 36)
    else none
  | 45 => if Text.lower (cs.take 9) = urnMark then ofHyphenated? (cs.drop 9) else none
  | _ => none

def ofText? (s : String) : Option Uuid := ofChars? s.toList

/-- The identifier whose digits write a number, most significant digit first. -/
def ofNat (n : Nat) : Uuid :=
  ⟨List.ofFn fun i : Fin 32 => Text.hexOfNat (n / Nat.pow 16 (31 - i.val)), by simp⟩

/-- The identifier of version 4 in its standard variant that takes its other digits from a
source of random digits. -/
def ofRandom (r : Uuid) : Uuid :=
  let variant := Text.hexOfNat (8 + (r.digits.getD 16 (Text.hexOfNat 0)).val % 4)
  ⟨(r.digits.set 12 (Text.hexOfNat 4)).set 16 variant, by simp [r.length_digits]⟩

/-- The version, which is the thirteenth digit. -/
def version (u : Uuid) : Nat := (u.digits.getD 12 (Text.hexOfNat 0)).val

/-- The identifier is of the standard variant, whose seventeenth digit begins with the bits
one and zero. -/
def isStandardVariant (u : Uuid) : Bool := (u.digits.getD 16 (Text.hexOfNat 0)).val / 4 == 2

theorem version_ofRandom (r : Uuid) : (ofRandom r).version = 4 := by
  have hlen : 12 < r.digits.length := by rw [r.length_digits]; decide
  have hdigit : (ofRandom r).digits[12]? = some (Text.hexOfNat 4) := by
    unfold ofRandom
    rw [List.getElem?_set_ne (by decide), List.getElem?_set_self hlen]
  exact congrArg (fun d : Option (Fin 16) => (d.getD (Text.hexOfNat 0)).val) hdigit

end Uuid

end SessionAuth
