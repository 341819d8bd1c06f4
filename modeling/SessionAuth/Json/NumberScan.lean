import SessionAuth.Json.Outline

/-!
# Numbers in JSON texts

A number is an integer without zeros in front, with an optional fraction and an optional
exponent. A reader who wants its value learns only whether it is a natural number that fits a word
of 64 bits, which is all that the service ever asks for. Any other number is measured against the
range of double precision: the longest start of its digits that fits a word is rounded to
fifty-three bits and scaled by a power of ten that is rounded likewise, and a number that comes out
beyond the range is not accepted.
-/

set_option autoImplicit false

namespace SessionAuth.Json

def digitValue (b : UInt8) : Nat := b.toNat - 0x30

/-- Appends digits to a number as long as it fits 64 bits; the digits that do not are left. -/
def absorb (n : Nat) : List UInt8 → Nat × List UInt8
  | [] => (n, [])
  | d :: ds =>
    let m := n * 10 + digitValue d
    if m < UInt64.size then absorb m ds else (n, d :: ds)

/-- A number rounded to fifty-three significant bits, a tie going to the even neighbour. -/
def round53 (n : Nat) : Nat :=
  let excess := n.log2 + 1 - 53
  let unit := Nat.pow 2 excess
  let quotient := n / unit
  let rest := n % unit
  let up := unit < 2 * rest ∨ (2 * rest = unit ∧ quotient % 2 = 1)
  (if up then quotient + 1 else quotient) * unit

/-- The significand and the power of ten are out of the range of double precision together. -/
def isOutOfRange (significand : Nat) (exponent : Int) : Bool :=
  significand != 0 &&
    (308 < exponent ||
      (0 ≤ exponent &&
        Nat.pow 2 1024 - Nat.pow 2 970 ≤
          round53 significand * round53 (Nat.pow 10 exponent.toNat)))

structure NumberParts where
  negative : Bool
  integer : List UInt8
  fraction : List UInt8
  exponent : Option (Bool × List UInt8)

namespace NumberParts

/-- The exponent, with a bound on those of more than twenty digits. -/
def exponentValue (p : NumberParts) : Int :=
  match p.exponent with
  | none => 0
  | some (negative, ds) =>
    let (n, left) := absorb 0 ds
    let n : Int := if left.isEmpty then n else UInt64.size
    if negative then -n else n

def value (p : NumberParts) : Except Trouble (Option Nat) :=
  let (n, left) := absorb 0 p.integer
  if left.isEmpty && p.fraction.isEmpty && p.exponent.isNone then
    .ok (if p.negative then none else some n)
  else
    let (significand, dropped) := absorb n p.fraction
    let places : Int := (left.length : Int) - ((p.fraction.length : Int) - dropped.length)
    if isOutOfRange significand (places + p.exponentValue) then .error .malformed else .ok none

end NumberParts

/-- Reads the exponent after its letter. -/
def scanExponent (p : NumberParts) (bs : Input) : Scanned (Option Nat) :=
  let (negative, bs) := match bs with
    | 0x2B :: rest => (false, rest)
    | 0x2D :: rest => (true, rest)
    | bs => (false, bs)
  match bs with
  | [] => .broken .truncated .malformed
  | b :: _ =>
    if isDigit b then
      .complete { p with exponent := some (negative, bs.takeWhile isDigit) }.value
        (bs.dropWhile isDigit)
    else .broken .malformed .malformed

/-- Reads what may follow the integer or the fraction. -/
def scanAfterDigits (p : NumberParts) (bs : Input) : Scanned (Option Nat) :=
  match bs with
  | b :: rest =>
    if b = 0x65 ∨ b = 0x45 then scanExponent p rest else .complete p.value bs
  | [] => .complete p.value bs

/-- Reads what may follow the integer. -/
def scanAfterInteger (p : NumberParts) (bs : Input) : Scanned (Option Nat) :=
  match bs with
  | 0x2E :: rest =>
    match rest with
    | [] => .broken .truncated .malformed
    | b :: _ =>
      if isDigit b then
        scanAfterDigits { p with fraction := rest.takeWhile isDigit } (rest.dropWhile isDigit)
      else .broken .malformed .malformed
  | bs => scanAfterDigits p bs

/-- Reads a number from after its sign. -/
def scanNumber (negative : Bool) (bs : Input) : Scanned (Option Nat) :=
  match bs with
  | [] => .broken .truncated .malformed
  | b :: rest =>
    if b = 0x30 then
      match rest with
      | d :: _ =>
        if isDigit d then .broken .malformed .malformed
        else scanAfterInteger ⟨negative, [0x30], [], none⟩ rest
      | [] => scanAfterInteger ⟨negative, [0x30], [], none⟩ rest
    else if isDigit b then
      scanAfterInteger ⟨negative, bs.takeWhile isDigit, [], none⟩ (bs.dropWhile isDigit)
    else .broken .malformed .malformed

theorem length_dropDigits_le (bs : Input) : (bs.dropWhile isDigit).length ≤ bs.length :=
  (List.dropWhile_suffix isDigit).length_le

theorem length_of_scanExponent {p : NumberParts} {bs rest : Input}
    {v : Except Trouble (Option Nat)} (h : scanExponent p bs = .complete v rest) :
    rest.length ≤ bs.length := by
  unfold scanExponent at h
  split at h
  rename_i negative bs' heq
  have hle : bs'.length ≤ bs.length := by
    split at heq <;> simp only [Prod.mk.injEq] at heq <;> rw [← heq.2] <;> simp
  split at h
  · simp at h
  · split at h
    · simp only [Scanned.complete.injEq] at h
      rw [← h.2]
      exact Nat.le_trans (length_dropDigits_le _) hle
    · simp at h

theorem length_of_scanAfterDigits {p : NumberParts} {bs rest : Input}
    {v : Except Trouble (Option Nat)} (h : scanAfterDigits p bs = .complete v rest) :
    rest.length ≤ bs.length := by
  unfold scanAfterDigits at h
  split at h
  · split at h
    · exact Nat.le_succ_of_le (length_of_scanExponent h)
    · exact Nat.le_of_eq (congrArg List.length (Scanned.complete.inj h).2.symm)
  · exact Nat.le_of_eq (congrArg List.length (Scanned.complete.inj h).2.symm)

theorem length_of_scanAfterInteger {p : NumberParts} {bs rest : Input}
    {v : Except Trouble (Option Nat)} (h : scanAfterInteger p bs = .complete v rest) :
    rest.length ≤ bs.length := by
  unfold scanAfterInteger at h
  split at h
  · rename_i tail
    split at h
    · simp at h
    · rename_i b tail'
      split at h
      · have h₁ := length_of_scanAfterDigits h
        have h₂ := length_dropDigits_le (b :: tail')
        simp only [List.length_cons] at h₂ ⊢
        omega
      · simp at h
  · exact length_of_scanAfterDigits h

theorem length_of_scanNumber {negative : Bool} {bs rest : Input}
    {v : Except Trouble (Option Nat)} (h : scanNumber negative bs = .complete v rest) :
    rest.length < bs.length := by
  unfold scanNumber at h
  split at h
  · simp at h
  · rename_i b tail
    split at h
    · split at h
      · split at h
        · simp at h
        · have := length_of_scanAfterInteger h
          simp only [List.length_cons] at this ⊢; omega
      · have := length_of_scanAfterInteger h
        simp only [List.length_cons] at this ⊢; omega
    · split at h
      · rename_i hd
        have h₁ := length_of_scanAfterInteger h
        rw [List.dropWhile_cons, if_pos hd] at h₁
        have h₂ := length_dropDigits_le tail
        simp only [List.length_cons]; omega
      · simp at h

end SessionAuth.Json
