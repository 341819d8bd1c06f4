import Mathlib.Data.List.Basic
import SessionAuth.Text.Decimal

set_option autoImplicit false

/-! # What the readers of numbers accept

A numeral is a row of decimal digits, of which there is at least one and which may begin with zeros.
The readers of configured numbers accept a numeral, with a sign in front if they take one, exactly
if its number fits a word of 64 bits: `Text.signed64?_eq_some_iff`, `Text.unsigned64?_eq_some_iff`.

What the writers write is a numeral (`Text.isNumeral_padded`), of the width asked for if the number
is not too large, and a reader that takes digits as long as there are any finds its end
(`Text.IsNumeral.takeWhile_append`).
-/

namespace SessionAuth.Text

/-- The characters are digits that write a number. -/
structure IsNumeral (n : Nat) (cs : List Char) : Prop where
  nonempty : cs ≠ []
  digits : ∀ c ∈ cs, isDigit c = true
  value : ofDigits cs = n

/-- The characters are digits that write a number, with or without a plus sign in front. -/
inductive IsUnsigned : Nat → List Char → Prop
  | plain {n : Nat} {cs : List Char} (h : IsNumeral n cs) : IsUnsigned n cs
  | plus {n : Nat} {cs : List Char} (h : IsNumeral n cs) : IsUnsigned n ('+' :: cs)

/-- The characters are digits that write a number, with or without a sign in front. -/
inductive IsSigned : Int → List Char → Prop
  | plain {n : Nat} {cs : List Char} (h : IsNumeral n cs) : IsSigned n cs
  | plus {n : Nat} {cs : List Char} (h : IsNumeral n cs) : IsSigned n ('+' :: cs)
  | minus {n : Nat} {cs : List Char} (h : IsNumeral n cs) : IsSigned (-n) ('-' :: cs)

/-- The text writes a number that fits a signed word of 64 bits. -/
def IsInt64 (n : Int) (s : String) : Prop :=
  IsSigned n s.toList ∧ -9223372036854775808 ≤ n ∧ n ≤ 9223372036854775807

/-- The text writes a number that fits an unsigned word of 64 bits. -/
def IsWord64 (n : Nat) (s : String) : Prop :=
  IsUnsigned n s.toList ∧ n ≤ 18446744073709551615

theorem natural?_eq_some_iff {cs : List Char} {n : Nat} :
    natural? cs = some n ↔ IsNumeral n cs := by
  unfold natural?
  constructor
  · intro h
    split at h
    · next hcs =>
      rw [Bool.and_eq_true, List.all_eq_true] at hcs
      exact ⟨by simpa using hcs.1, hcs.2, Option.some.inj h⟩
    · cases h
  · rintro ⟨hne, hdigits, rfl⟩
    have hall : cs.all isDigit = true := List.all_eq_true.2 hdigits
    simp [hne, hall]

theorem naturalBelow?_eq_some_iff {bound : Nat} {cs : List Char} {n : Nat} :
    naturalBelow? bound cs = some n ↔ IsNumeral n cs ∧ n < bound := by
  rw [naturalBelow?_eq_filter, Option.filter_eq_some_iff, natural?_eq_some_iff, decide_eq_true_eq]

theorem isDigit_iff {c : Char} : isDigit c = true ↔ 0x30 ≤ c.toNat ∧ c.toNat ≤ 0x39 := by
  simp only [isDigit, Bool.and_eq_true, decide_eq_true_eq, Char.le_def, UInt32.le_iff_toNat_le]
  rfl

/-- A numeral begins with a digit, and so with no sign. -/
theorem IsNumeral.ne_sign {n : Nat} {c : Char} {cs : List Char} (h : IsNumeral n (c :: cs)) :
    c ≠ '+' ∧ c ≠ '-' := by
  have hdigit : isDigit c = true := h.digits c List.mem_cons_self
  constructor
  · rintro rfl
    cases hdigit
  · rintro rfl
    cases hdigit

/-- **What is read as a signed word of 64 bits.** -/
theorem signed64?_eq_some_iff {s : String} {n : Int} : signed64? s = some n ↔ IsInt64 n s := by
  unfold signed64? IsInt64
  constructor
  · intro h
    split at h
    all_goals obtain ⟨k, hk, rfl⟩ := Option.map_eq_some_iff.1 h
    · next cs heq =>
      obtain ⟨m, hm, hkm⟩ := Option.bind_eq_some_iff.1 hk
      cases hkm
      obtain ⟨hnumeral, hbound⟩ := naturalBelow?_eq_some_iff.1 hm
      rw [heq]
      exact ⟨.minus hnumeral, by omega, by omega⟩
    · next cs heq =>
      obtain ⟨hnumeral, hbound⟩ := naturalBelow?_eq_some_iff.1 hk
      rw [heq]
      exact ⟨.plus hnumeral, Int.le_trans (by decide) (Int.natCast_nonneg k), by simp; omega⟩
    · obtain ⟨hnumeral, hbound⟩ := naturalBelow?_eq_some_iff.1 hk
      exact ⟨.plain hnumeral, Int.le_trans (by decide) (Int.natCast_nonneg k), by simp; omega⟩
  · rintro ⟨hsigned, hlow, hhigh⟩
    generalize s.toList = cs at hsigned
    cases hsigned with
    | @plain m _ hnumeral =>
        have hread : naturalBelow? 0x8000000000000000 cs = some m :=
          naturalBelow?_eq_some_iff.2 ⟨hnumeral, by omega⟩
        split
        · exact absurd rfl hnumeral.ne_sign.2
        · exact absurd rfl hnumeral.ne_sign.1
        · rw [hread]
          rfl
    | @plus m ds hnumeral =>
        have hread : naturalBelow? 0x8000000000000000 ds = some m :=
          naturalBelow?_eq_some_iff.2 ⟨hnumeral, by omega⟩
        simp only [hread]
        rfl
    | @minus m ds hnumeral =>
        have hread : naturalBelow? (0x8000000000000000 + 1) ds = some m :=
          naturalBelow?_eq_some_iff.2 ⟨hnumeral, by omega⟩
        simp only [hread]
        rfl

/-- **What is read as an unsigned word of 64 bits.** -/
theorem unsigned64?_eq_some_iff {s : String} {n : Nat} :
    unsigned64? s = some n ↔ IsWord64 n s := by
  have hsize : UInt64.size = 18446744073709551616 := rfl
  unfold unsigned64? IsWord64
  constructor
  · intro h
    split at h
    all_goals obtain ⟨hnumeral, hbound⟩ := naturalBelow?_eq_some_iff.1 h
    · next cs heq =>
      rw [heq]
      exact ⟨.plus hnumeral, by omega⟩
    · exact ⟨.plain hnumeral, by omega⟩
  · rintro ⟨hunsigned, hhigh⟩
    generalize s.toList = cs at hunsigned
    cases hunsigned with
    | plain hnumeral =>
        split
        · exact absurd rfl hnumeral.ne_sign.1
        · exact naturalBelow?_eq_some_iff.2 ⟨hnumeral, by omega⟩
    | plus hnumeral => exact naturalBelow?_eq_some_iff.2 ⟨hnumeral, by omega⟩

/-- Numbers are written as everywhere. -/
theorem integerText_eq_toString (n : Int) : integerText n = toString n := by
  cases n with
  | ofNat m => rfl
  | negSucc m =>
      refine String.toList_injective ?_
      simp [integerText, digits, ToString.toString, Int.repr, Nat.repr]

/-! ## Written numerals -/

/-- **A number is written as a numeral**, whatever the width. -/
theorem isNumeral_padded (width n : Nat) : IsNumeral n (padded width n) where
  nonempty := List.append_ne_nil_of_right_ne_nil _ (digits_ne_nil n)
  digits := by
    intro c hc
    rcases List.mem_append.1 hc with hzero | hdigit
    · rw [List.eq_of_mem_replicate hzero]
      rfl
    · exact isDigit_of_mem_digits hdigit
  value := ofDigits_padded width n

/-- Numbers are written with digits, and a minus sign in front. -/
theorem of_mem_integerText {n : Int} {c : Char} (h : c ∈ (integerText n).toList) :
    isDigit c = true ∨ c = '-' := by
  cases n with
  | ofNat m => exact Or.inl (isDigit_of_mem_digits (by simpa [integerText] using h))
  | negSucc m =>
      rw [integerText, String.toList_ofList, List.mem_cons] at h
      exact h.symm.imp_left isDigit_of_mem_digits

/-- A number is written without zeros in front. -/
theorem head?_digits {n : Nat} (hn : n ≠ 0) : (digits n).head? ≠ some '0' := by
  have hdigit : ∀ d < 10, d ≠ 0 → Nat.digitChar d ≠ '0' := by decide
  induction n using Nat.strongRecOn with
  | ind n ih =>
      rw [digits, Nat.toDigits_eq_if (by decide)]
      by_cases hsmall : n < 10
      · rw [if_pos hsmall, List.head?_cons]
        exact fun h => hdigit n hsmall hn (Option.some.inj h)
      · rw [if_neg hsmall, List.head?_append_of_ne_nil _ (Nat.toDigits_ne_nil)]
        exact ih (n / 10) (Nat.div_lt_self (by omega) (by decide)) (by omega)

/-- A number that fits the width fills it. -/
theorem length_padded {width n : Nat} (hwidth : 0 < width) (h : n < Nat.pow 10 width) :
    (padded width n).length = width := by
  have hle : (digits n).length ≤ width := (Nat.length_toDigits_le_iff (by decide) hwidth).2 h
  simp only [padded, List.length_append, List.length_replicate]
  omega

/-! ## The end of a numeral -/

section Runs

variable {α : Type} {p : α → Bool} {run rest : List α}

/-- A run ends where the list does not go on with it. -/
theorem takeWhile_append_of_stop (hrun : ∀ a ∈ run, p a = true)
    (hstop : ∀ a ∈ rest.head?, p a = false) : (run ++ rest).takeWhile p = run := by
  rw [List.takeWhile_append_of_pos hrun]
  cases rest with
  | nil => simp
  | cons a rest => simp [hstop a rfl]

theorem dropWhile_append_of_stop (hrun : ∀ a ∈ run, p a = true)
    (hstop : ∀ a ∈ rest.head?, p a = false) : (run ++ rest).dropWhile p = rest := by
  rw [List.dropWhile_append_of_pos hrun]
  cases rest with
  | nil => rfl
  | cons a rest => simp [hstop a rfl]

end Runs

/-- The text does not go on with a digit. -/
def StopsDigits (cs : List Char) : Prop := ∀ c ∈ cs.head?, isDigit c = false

theorem stopsDigits_cons {c : Char} (cs : List Char) (h : isDigit c = false) :
    StopsDigits (c :: cs) := fun _ hd => Option.some.inj hd ▸ h

theorem IsNumeral.takeWhile_append {n : Nat} {cs rest : List Char} (h : IsNumeral n cs)
    (hrest : StopsDigits rest) : (cs ++ rest).takeWhile isDigit = cs :=
  takeWhile_append_of_stop h.digits hrest

theorem IsNumeral.dropWhile_append {n : Nat} {cs rest : List Char} (h : IsNumeral n cs)
    (hrest : StopsDigits rest) : (cs ++ rest).dropWhile isDigit = rest :=
  dropWhile_append_of_stop h.digits hrest

end SessionAuth.Text
