import SessionAuth.Crypto.Words

/-!
# BLAKE2b

The hash BLAKE2b without a key, for digests of up to 64 bytes. A message is cut into blocks of
128 bytes, the last one filled up with zeros. Eight words of state are carried from block to block;
a block is worked into them by twelve rounds on sixteen words. A round mixes four words at a time:
first the columns of the sixteen, seen as a square, and then its diagonals, each time with two
words of the message that the round's permutation picks.
-/

set_option autoImplicit false

namespace SessionAuth.Crypto.Blake2b

def initial : Vector UInt64 8 :=
  #v[0x6a09e667f3bcc908, 0xbb67ae8584caa73b, 0x3c6ef372fe94f82b, 0xa54ff53a5f1d36f1,
    0x510e527fade682d1, 0x9b05688c2b3e6c1f, 0x1f83d9abfb41bd6b, 0x5be0cd19137e2179]

/-- The permutations of the message words, round by round; the last two rounds repeat the first
two. -/
def permutations : List (List (Fin 16)) :=
  let first : List (Fin 16) := [0, 1, 2, 3, 4, 5, 6, 7, 8, 9, 10, 11, 12, 13, 14, 15]
  let second : List (Fin 16) := [14, 10, 4, 8, 9, 15, 13, 6, 1, 12, 0, 2, 11, 7, 5, 3]
  [first, second,
    [11, 8, 12, 0, 5, 2, 15, 13, 10, 14, 3, 6, 7, 1, 9, 4],
    [7, 9, 3, 1, 13, 12, 11, 14, 2, 6, 5, 10, 4, 0, 15, 8],
    [9, 0, 5, 7, 2, 4, 10, 15, 14, 1, 11, 12, 6, 8, 3, 13],
    [2, 12, 6, 10, 0, 11, 8, 3, 4, 13, 7, 5, 15, 14, 1, 9],
    [12, 5, 1, 15, 14, 13, 4, 10, 0, 7, 6, 3, 9, 2, 8, 11],
    [13, 11, 7, 14, 12, 1, 3, 9, 5, 0, 15, 4, 8, 6, 2, 10],
    [6, 15, 14, 9, 11, 3, 0, 8, 12, 2, 13, 7, 1, 4, 10, 5],
    [10, 2, 8, 4, 7, 6, 1, 5, 15, 11, 9, 14, 3, 12, 13, 0],
    first, second]

/-- The places of four words that are mixed together. -/
structure Quarter where
  a : Fin 16
  b : Fin 16
  c : Fin 16
  d : Fin 16

/-- The columns and the diagonals of the square. -/
def quarters : List Quarter :=
  [⟨0, 4, 8, 12⟩, ⟨1, 5, 9, 13⟩, ⟨2, 6, 10, 14⟩, ⟨3, 7, 11, 15⟩,
    ⟨0, 5, 10, 15⟩, ⟨1, 6, 11, 12⟩, ⟨2, 7, 8, 13⟩, ⟨3, 4, 9, 14⟩]

/-- Mixes four words of the square with two words of the message. -/
def mix (v : Vector UInt64 16) (q : Quarter) (x y : UInt64) : Vector UInt64 16 :=
  let a := v[q.a] + v[q.b] + x
  let d := rotate (v[q.d] ^^^ a) 32
  let c := v[q.c] + d
  let b := rotate (v[q.b] ^^^ c) 24
  let a := a + b + y
  let d := rotate (d ^^^ a) 16
  let c := c + d
  let b := rotate (b ^^^ c) 63
  (((v.set q.a a).set q.b b).set q.c c).set q.d d

/-- Mixes some quarters, each with the next two words that the permutation picks. -/
def mixAll (message : Vector UInt64 16) :
    List Quarter → List (Fin 16) → Vector UInt64 16 → Vector UInt64 16
  | q :: qs, i :: j :: picks, v => mixAll message qs picks (mix v q message[i] message[j])
  | _, _, v => v

/-- The sixteen words at the start of the rounds. -/
def square (h : Vector UInt64 8) (count : Nat) (isLast : Bool) : Vector UInt64 16 :=
  let low := UInt64.ofNat count
  let high := UInt64.ofNat (count / UInt64.size)
  let v := h ++ initial
  let v := (v.set 12 (v[12] ^^^ low)).set 13 (v[13] ^^^ high)
  if isLast then v.set 14 (v[14] ^^^ 0xffffffffffffffff) else v

/-- Works a block into the state; `count` bytes have been hashed with it. -/
def compress (h : Vector UInt64 8) (block : List UInt8) (count : Nat) (isLast : Bool) :
    Vector UInt64 8 :=
  let words := (wordsOf block).toArray
  let message := Vector.ofFn fun i : Fin 16 => words.getD i.val 0
  let v := permutations.foldl (fun v picks => mixAll message quarters picks v)
    (square h count isLast)
  Vector.ofFn fun i : Fin 8 => h[i] ^^^ v[i.val] ^^^ v[i.val + 8]

/-- Works a message into the state, `count` bytes of which have been hashed already. -/
def absorb (h : Vector UInt64 8) (count : Nat) (message : List UInt8) : Vector UInt64 8 :=
  if (message.drop 128).isEmpty then compress h message (count + message.length) true
  else absorb (compress h (message.take 128) (count + 128) false) (count + 128) (message.drop 128)
termination_by message.length
decreasing_by
  rename_i hne
  simp only [List.isEmpty_iff, List.drop_eq_nil_iff] at hne
  simp only [List.length_drop]
  omega

/-- The digest of `size` bytes, at most 64, of a message. -/
def hash (size : Nat) (message : List UInt8) : List UInt8 :=
  let h := initial.set 0 (initial[0] ^^^ 0x01010000 ^^^ UInt64.ofNat size)
  ((absorb h 0 message).toList.flatMap (bytesOf 8)).take size

theorem length_hash {size : Nat} (message : List UInt8) (h : size ≤ 64) :
    (hash size message).length = size := by
  have hl : ∀ ws : List UInt64, (ws.flatMap (bytesOf 8)).length = 8 * ws.length := by
    intro ws
    induction ws with
    | nil => rfl
    | cons w ws ih => simp [ih]; omega
  simp [hash, hl]
  omega

end SessionAuth.Crypto.Blake2b
