/-!
# Outlines of JSON texts

A text is read from left to right, and the first thing wrong with it decides. What is wrong may
lie in the text itself or in what the reader wanted to find there. To keep the two apart a text is
first made into an *outline*: the value that it writes, as far as it goes, with a mark at the place
where it breaks off. What is looked for is then looked for in the outline.

The same piece of text can be sound to a reader who passes it over and unsound to one who wants
its value: a string may hold bytes that are no text, a number may be too large. An outline
therefore says of each piece what happens to either reader.
-/

set_option autoImplicit false

namespace SessionAuth.Json

inductive Trouble where
  | malformed
  /-- The text is JSON, but not what was wanted. -/
  | mismatch
  | truncated
  deriving DecidableEq, Repr

abbrev Input := List UInt8

/-- The outline of a text. -/
inductive Outline where
  | null
  | bool (b : Bool)
  /-- A number: its value if it is a natural number that fits a word of 64 bits. -/
  | number (value : Except Trouble (Option Nat))
  | string (value : Except Trouble String)
  /-- An array, and what goes wrong before its end is reached. -/
  | array (items : List Outline) (ending : Option Trouble)
  /-- An object, and what goes wrong before its end is reached. -/
  | object (members : List (Except Trouble String × Outline)) (ending : Option Trouble)
  /-- The text breaks off: what a reader of the value meets, and one who passes over it. -/
  | broken (read skipped : Trouble)

/-- What a reader meets who passes over the outlined value. -/
def Outline.skipTrouble? : Outline → Option Trouble
  | array _ ending | object _ ending => ending
  | broken _ skipped => some skipped
  | _ => none

/-- How far the reading of a piece of text came. -/
inductive Scanned (α : Type) where
  /-- The piece is complete, and this is its value. -/
  | complete (value : Except Trouble α) (rest : Input)
  | broken (read skipped : Trouble)

/-- A byte that may stand between the parts of a text. -/
def isSpace (b : UInt8) : Bool := b == 0x20 || b == 0x09 || b == 0x0A || b == 0x0D

def isDigit (b : UInt8) : Bool := 0x30 ≤ b && b ≤ 0x39

/-- The text from the next part on. -/
def skipSpace (bs : Input) : Input := bs.dropWhile isSpace

def expect : List UInt8 → Input → Except Trouble Input
  | [], bs => .ok bs
  | _ :: _, [] => .error .truncated
  | e :: es, b :: bs => if b = e then expect es bs else .error .malformed

theorem length_skipSpace_le (bs : Input) : (skipSpace bs).length ≤ bs.length :=
  (List.dropWhile_suffix isSpace).length_le

theorem length_of_skipSpace {b : UInt8} {bs rest : Input} (h : skipSpace bs = b :: rest) :
    rest.length < bs.length := by
  have hle := length_skipSpace_le bs
  rw [h] at hle
  exact hle

theorem length_expect_le {es : List UInt8} {bs rest : Input} (h : expect es bs = .ok rest) :
    rest.length ≤ bs.length := by
  induction es generalizing bs with
  | nil => simp only [expect, Except.ok.injEq] at h; subst h; exact Nat.le_refl _
  | cons e es ih =>
    cases bs with
    | nil => simp [expect] at h
    | cons b bs =>
      simp only [expect] at h
      split at h
      · exact Nat.le_succ_of_le (ih h)
      · simp at h

end SessionAuth.Json
