import SessionAuth.Json.Outline
import SessionAuth.Text.Utf8

/-!
# Strings in JSON texts

A string ends at the first quote that is not escaped. To a reader who passes over it only the
escapes have to be well formed. To one who wants its value its bytes have to be text as well, and
an escape for half of a character has to be followed by one for the other half.
-/

set_option autoImplicit false

namespace SessionAuth.Json

/-- What has been read of a string. -/
structure StringState where
  /-- The bytes of its value so far, last first, or what is wrong with it. -/
  bytes : Except Trouble (List UInt8)
  /-- The first half of a character whose second half has to follow. -/
  half : Option Nat

namespace StringState

def start : StringState := ⟨.ok [], none⟩

/-- Takes bytes that stand for themselves, given last first. -/
def push (s : StringState) (bs : List UInt8) : StringState :=
  match s.half with
  | some _ => ⟨s.bytes.bind fun _ => .error .malformed, none⟩
  | none => ⟨s.bytes.map (bs ++ ·), none⟩

/-- The bytes of a code point, last first. -/
def pointBytes (n : Nat) : List UInt8 := (String.utf8EncodeChar (Char.ofNat n)).reverse

/-- Takes a unit of sixteen bits. -/
def pushUnit (s : StringState) (n : Nat) : StringState :=
  match s.half with
  | some high =>
    if 0xDC00 ≤ n ∧ n ≤ 0xDFFF then
      ⟨s.bytes.map (pointBytes (0x10000 + (high - 0xD800) * 0x400 + (n - 0xDC00)) ++ ·), none⟩
    else ⟨s.bytes.bind fun _ => .error .malformed, none⟩
  | none =>
    if 0xDC00 ≤ n ∧ n ≤ 0xDFFF then ⟨s.bytes.bind fun _ => .error .malformed, none⟩
    else if 0xD800 ≤ n ∧ n ≤ 0xDBFF then ⟨s.bytes, some n⟩
    else ⟨s.bytes.map (pointBytes n ++ ·), none⟩

/-- The value of a string that ends here. -/
def finish (s : StringState) : Except Trouble String :=
  match s.bytes, s.half with
  | .error t, _ => .error t
  | .ok _, some _ => .error .malformed
  | .ok bs, none =>
    match Text.ofUtf8? bs.reverse with
    | some text => .ok text
    | none => .error .malformed

/-- The string breaks off with some trouble; an earlier one comes first for the reader. -/
def fail (s : StringState) (t : Trouble) : Scanned String :=
  match s.bytes with
  | .error earlier => .broken earlier t
  | .ok _ => .broken t t

end StringState

def hexValue? (b : UInt8) : Option Nat :=
  let n := b.toNat
  if 48 ≤ n ∧ n ≤ 57 then some (n - 48)
  else if 97 ≤ n ∧ n ≤ 102 then some (n - 87)
  else if 65 ≤ n ∧ n ≤ 70 then some (n - 55)
  else none

def unit? (a b c d : UInt8) : Option Nat := do
  return (← hexValue? a) * 4096 + (← hexValue? b) * 256 + (← hexValue? c) * 16 + (← hexValue? d)

/-- The byte that a letter after a backslash stands for. -/
def letterEscape? (b : UInt8) : Option UInt8 :=
  if b = 0x22 ∨ b = 0x5C ∨ b = 0x2F then some b
  else if b = 0x62 then some 0x08
  else if b = 0x66 then some 0x0C
  else if b = 0x6E then some 0x0A
  else if b = 0x72 then some 0x0D
  else if b = 0x74 then some 0x09
  else none

/-- Reads a string from after its first quote. -/
def scanString (s : StringState) : Input → Scanned String
  | [] => s.fail .truncated
  | 0x22 :: rest => .complete s.finish rest
  | 0x5C :: 0x75 :: a :: b :: c :: d :: rest =>
    match unit? a b c d with
    | some n => scanString (s.pushUnit n) rest
    | none => s.fail .malformed
  | 0x5C :: 0x75 :: _ => s.fail .truncated
  | 0x5C :: b :: rest =>
    match letterEscape? b with
    | some e => scanString (s.push [e]) rest
    | none => s.fail .malformed
  | 0x5C :: [] => s.fail .truncated
  | b :: rest => if b < 0x20 then s.fail .malformed else scanString (s.push [b]) rest

theorem length_of_scanString {s : StringState} {bs rest : Input} {v : Except Trouble String}
    (h : scanString s bs = .complete v rest) : rest.length < bs.length := by
  fun_induction scanString s bs with
  | case2 s rest' => simp only [Scanned.complete.injEq] at h; simp [h.2]
  | case3 | case6 | case10 =>
    rename_i ih
    have := ih h
    simp only [List.length_cons]
    omega
  | _ =>
    unfold StringState.fail at h
    split at h <;> simp at h

end SessionAuth.Json
