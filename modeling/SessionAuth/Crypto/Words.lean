/-!
# Bytes and words

The hashes of this folder compute on words of 64 bits and are given bytes. Everywhere the least
significant byte comes first.
-/

set_option autoImplicit false

namespace SessionAuth.Crypto

/-- The last `n` bytes of a word, least significant first. -/
def bytesOf (n : Nat) (w : UInt64) : List UInt8 :=
  match n with
  | 0 => []
  | n + 1 => w.toUInt8 :: bytesOf n (w >>> 8)

/-- The word that at most eight bytes write. -/
def wordOf : List UInt8 → UInt64
  | [] => 0
  | b :: bs => b.toUInt64 ||| wordOf bs <<< 8

/-- The words that a row of bytes writes, eight bytes to a word. -/
def wordsOf : List UInt8 → List UInt64
  | a :: b :: c :: d :: e :: f :: g :: h :: rest => wordOf [a, b, c, d, e, f, g, h] :: wordsOf rest
  | [] => []
  | rest => [wordOf rest]

/-- Four bytes for a number. -/
def number32 (n : Nat) : List UInt8 := bytesOf 4 (UInt64.ofNat n)

/-- A word turned right by `n` bits. -/
@[inline] def rotate (w : UInt64) (n : UInt64) : UInt64 := w >>> n ||| w <<< (64 - n)

@[simp] theorem length_bytesOf (n : Nat) (w : UInt64) : (bytesOf n w).length = n := by
  induction n generalizing w with
  | zero => rfl
  | succ n ih => simp [bytesOf, ih]

end SessionAuth.Crypto
