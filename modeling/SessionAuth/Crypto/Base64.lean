/-!
# Base 64

Bytes are written three at a time as four characters of an alphabet of 64. One or two bytes that
are left over give two or three characters, and nothing is filled up. The reader takes only what
the writer writes: the bits of the last character that belong to no byte have to be zero.
-/

set_option autoImplicit false

namespace SessionAuth.Crypto.Base64

def alphabet : List Char :=
  "ABCDEFGHIJKLMNOPQRSTUVWXYZabcdefghijklmnopqrstuvwxyz0123456789+/".toList

def digitChar (n : Nat) : Char := alphabet.getD n 'A'

def digit? (c : Char) : Option Nat :=
  if c ∈ alphabet then some (alphabet.idxOf c) else none

/-- The numbers below 64 that write some bytes. -/
def pack : List UInt8 → List Nat
  | a :: b :: c :: rest =>
    a.toNat / 4 :: (a.toNat % 4 * 16 + b.toNat / 16) :: (b.toNat % 16 * 4 + c.toNat / 64) ::
      c.toNat % 64 :: pack rest
  | [a, b] => [a.toNat / 4, a.toNat % 4 * 16 + b.toNat / 16, b.toNat % 16 * 4]
  | [a] => [a.toNat / 4, a.toNat % 4 * 16]
  | [] => []

/-- The bytes that some numbers below 64 write. -/
def unpack? : List Nat → Option (List UInt8)
  | w :: x :: y :: z :: rest =>
    (unpack? rest).map fun bs =>
      UInt8.ofNat (w * 4 + x / 16) :: UInt8.ofNat (x % 16 * 16 + y / 4) ::
        UInt8.ofNat (y % 4 * 64 + z) :: bs
  | [w, x, y] =>
    if y % 4 = 0 then some [UInt8.ofNat (w * 4 + x / 16), UInt8.ofNat (x % 16 * 16 + y / 4)]
    else none
  | [w, x] => if x % 16 = 0 then some [UInt8.ofNat (w * 4 + x / 16)] else none
  | [_] => none
  | [] => some []

def encode (bs : List UInt8) : List Char := (pack bs).map digitChar

def decode? (cs : List Char) : Option (List UInt8) := (cs.mapM digit?).bind unpack?

/-! ## What is written reads back -/

set_option maxRecDepth 4000 in
theorem digit?_digitChar {n : Nat} (h : n < 64) : digit? (digitChar n) = some n := by
  have : ∀ i : Fin 64, digit? (digitChar i.val) = some i.val := by decide
  exact this ⟨n, h⟩

theorem pack_lt (bs : List UInt8) : ∀ n ∈ pack bs, n < 64 := by
  fun_induction pack bs with
  | case1 a b c rest ih =>
    have := a.toNat_lt; have := b.toNat_lt; have := c.toNat_lt
    simp only [List.mem_cons]
    rintro n (rfl | rfl | rfl | rfl | h)
    · omega
    · omega
    · omega
    · omega
    · exact ih n h
  | case2 a b =>
    have := a.toNat_lt; have := b.toNat_lt
    simp only [List.mem_cons, List.not_mem_nil, or_false]
    rintro n (rfl | rfl | rfl) <;> omega
  | case3 a =>
    have := a.toNat_lt
    simp only [List.mem_cons, List.not_mem_nil, or_false]
    rintro n (rfl | rfl) <;> omega
  | case4 => simp

theorem ofNat_eq_of_toNat_eq {a : UInt8} {n : Nat} (h : n = a.toNat) : UInt8.ofNat n = a := by
  subst h; simp

theorem unpack?_pack (bs : List UInt8) : unpack? (pack bs) = some bs := by
  fun_induction pack bs with
  | case1 a b c rest ih =>
    have := a.toNat_lt; have := b.toNat_lt; have := c.toNat_lt
    simp only [unpack?, ih, Option.map_some, Option.some.injEq, List.cons.injEq, and_true]
    refine ⟨ofNat_eq_of_toNat_eq ?_, ofNat_eq_of_toNat_eq ?_, ofNat_eq_of_toNat_eq ?_⟩ <;> omega
  | case2 a b =>
    have := a.toNat_lt; have := b.toNat_lt
    have h : b.toNat % 16 * 4 % 4 = 0 := by omega
    simp only [unpack?, h, if_true, Option.some.injEq, List.cons.injEq, and_true]
    refine ⟨ofNat_eq_of_toNat_eq ?_, ofNat_eq_of_toNat_eq ?_⟩ <;> omega
  | case3 a =>
    have := a.toNat_lt
    have h : a.toNat % 4 * 16 % 16 = 0 := by omega
    simp only [unpack?, h, if_true, Option.some.injEq, List.cons.injEq, and_true]
    exact ofNat_eq_of_toNat_eq (by omega)
  | case4 => rfl

theorem mapM_digit?_map {ns : List Nat} (h : ∀ n ∈ ns, n < 64) :
    (ns.map digitChar).mapM digit? = some ns := by
  induction ns with
  | nil => rfl
  | cons n ns ih =>
    simp [List.mapM_cons, digit?_digitChar (h n (by simp)), ih fun m hm => h m (by simp [hm])]

@[simp] theorem decode?_encode (bs : List UInt8) : decode? (encode bs) = some bs := by
  simp [decode?, encode, mapM_digit?_map (pack_lt bs), unpack?_pack]

end SessionAuth.Crypto.Base64
