import SessionAuth.Crypto.Words

/-!
# Blocks

Argon2 fills its memory with blocks of 1024 bytes. A block is a square of eight by eight cells of
two words each; a row is its sixteen words. Two blocks are compressed into one: their sum is
permuted row by row, then column by column, and added to what it was. Sums of blocks are taken bit
by bit.
-/

set_option autoImplicit false

namespace SessionAuth.Crypto

/-- A row of eight cells of two words. -/
structure Row where
  (w0 w1 w2 w3 w4 w5 w6 w7 w8 w9 w10 w11 w12 w13 w14 w15 : UInt64)

/-- A square of eight rows. -/
structure Block where
  (r0 r1 r2 r3 r4 r5 r6 r7 : Row)

namespace Row

/-- The row of the words from place `i` on, with zeros where there are none. -/
def ofWords (words : Array UInt64) (i : Nat) : Row :=
  let w (k : Nat) := words.getD (i + k) 0
  ⟨w 0, w 1, w 2, w 3, w 4, w 5, w 6, w 7, w 8, w 9, w 10, w 11, w 12, w 13, w 14, w 15⟩

def words (r : Row) : List UInt64 :=
  [r.w0, r.w1, r.w2, r.w3, r.w4, r.w5, r.w6, r.w7, r.w8, r.w9, r.w10, r.w11, r.w12, r.w13,
   r.w14, r.w15]

def word (r : Row) : Nat → UInt64
  | 0 => r.w0
  | 1 => r.w1
  | 2 => r.w2
  | 3 => r.w3
  | 4 => r.w4
  | 5 => r.w5
  | 6 => r.w6
  | 7 => r.w7
  | 8 => r.w8
  | 9 => r.w9
  | 10 => r.w10
  | 11 => r.w11
  | 12 => r.w12
  | 13 => r.w13
  | 14 => r.w14
  | _ => r.w15

def add (r s : Row) : Row :=
  ⟨r.w0 ^^^ s.w0, r.w1 ^^^ s.w1, r.w2 ^^^ s.w2, r.w3 ^^^ s.w3, r.w4 ^^^ s.w4, r.w5 ^^^ s.w5,
   r.w6 ^^^ s.w6, r.w7 ^^^ s.w7, r.w8 ^^^ s.w8, r.w9 ^^^ s.w9, r.w10 ^^^ s.w10,
   r.w11 ^^^ s.w11, r.w12 ^^^ s.w12, r.w13 ^^^ s.w13, r.w14 ^^^ s.w14, r.w15 ^^^ s.w15⟩

/-- The sum of two words and twice the product of their lower halves. -/
@[inline] def blend (x y : UInt64) : UInt64 :=
  x + y + 2 * (x &&& 0xffffffff) * (y &&& 0xffffffff)

/-- Mixes four words and goes on with them. -/
@[inline] def mixing (a b c d : UInt64) (next : UInt64 → UInt64 → UInt64 → UInt64 → Row) : Row :=
  let a := blend a b
  let d := rotate (d ^^^ a) 32
  let c := blend c d
  let b := rotate (b ^^^ c) 24
  let a := blend a b
  let d := rotate (d ^^^ a) 16
  let c := blend c d
  let b := rotate (b ^^^ c) 63
  next a b c d

/-- Mixes the columns and then the diagonals of the sixteen words, seen as a square. -/
def permute (r : Row) : Row :=
  mixing r.w0 r.w4 r.w8 r.w12 fun w0 w4 w8 w12 =>
  mixing r.w1 r.w5 r.w9 r.w13 fun w1 w5 w9 w13 =>
  mixing r.w2 r.w6 r.w10 r.w14 fun w2 w6 w10 w14 =>
  mixing r.w3 r.w7 r.w11 r.w15 fun w3 w7 w11 w15 =>
  mixing w0 w5 w10 w15 fun w0 w5 w10 w15 =>
  mixing w1 w6 w11 w12 fun w1 w6 w11 w12 =>
  mixing w2 w7 w8 w13 fun w2 w7 w8 w13 =>
  mixing w3 w4 w9 w14 fun w3 w4 w9 w14 =>
  ⟨w0, w1, w2, w3, w4, w5, w6, w7, w8, w9, w10, w11, w12, w13, w14, w15⟩

end Row

namespace Block

/-- The block of some words, with zeros where there are none. -/
def ofWords (words : Array UInt64) : Block :=
  let row (k : Nat) := Row.ofWords words (16 * k)
  ⟨row 0, row 1, row 2, row 3, row 4, row 5, row 6, row 7⟩

/-- The block that 1024 bytes write. -/
def ofBytes (bs : List UInt8) : Block := ofWords (wordsOf bs).toArray

def rows (b : Block) : List Row := [b.r0, b.r1, b.r2, b.r3, b.r4, b.r5, b.r6, b.r7]

def bytes (b : Block) : List UInt8 := (b.rows.flatMap Row.words).flatMap (bytesOf 8)

def word (b : Block) (i : Nat) : UInt64 :=
  match i / 16 with
  | 0 => b.r0.word i
  | 1 => b.r1.word (i % 16)
  | 2 => b.r2.word (i % 16)
  | 3 => b.r3.word (i % 16)
  | 4 => b.r4.word (i % 16)
  | 5 => b.r5.word (i % 16)
  | 6 => b.r6.word (i % 16)
  | _ => b.r7.word (i % 16)

def zero : Block := ofWords #[]

def add (a b : Block) : Block :=
  ⟨a.r0.add b.r0, a.r1.add b.r1, a.r2.add b.r2, a.r3.add b.r3, a.r4.add b.r4, a.r5.add b.r5,
    a.r6.add b.r6, a.r7.add b.r7⟩

/-- The column of the cells that `f` and `g` take the words of. -/
@[inline] def column (b : Block) (f g : Row → UInt64) : Row :=
  ⟨f b.r0, g b.r0, f b.r1, g b.r1, f b.r2, g b.r2, f b.r3, g b.r3, f b.r4, g b.r4,
   f b.r5, g b.r5, f b.r6, g b.r6, f b.r7, g b.r7⟩

/-- The block whose rows are the columns of a block. -/
def transpose (b : Block) : Block :=
  ⟨b.column Row.w0 Row.w1, b.column Row.w2 Row.w3, b.column Row.w4 Row.w5,
   b.column Row.w6 Row.w7, b.column Row.w8 Row.w9, b.column Row.w10 Row.w11,
   b.column Row.w12 Row.w13, b.column Row.w14 Row.w15⟩

def permuteRows (b : Block) : Block :=
  ⟨b.r0.permute, b.r1.permute, b.r2.permute, b.r3.permute, b.r4.permute, b.r5.permute,
    b.r6.permute, b.r7.permute⟩

/-- Two blocks compressed into one. -/
def compress (a b : Block) : Block :=
  let sum := a.add b
  sum.permuteRows.transpose.permuteRows.transpose.add sum

end Block

end SessionAuth.Crypto
