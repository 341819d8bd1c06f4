/-!
# Decimal numerals

Whole numbers are written with the digits `0` to `9` and no other mark. The readers take ASCII
digits alone: a plain numeral, one below a bound, one with an optional sign that has to fit a
signed word of 64 bits, and one that has to fit an unsigned word. A numeral may have any number
of zeros in front and so any length, so that the readers with a bound keep no number above it
(`naturalBelow?_eq_filter`). A writer pads with zeros in front to a fixed width.
-/

set_option autoImplicit false

namespace SessionAuth.Text

def isDigit (c : Char) : Bool := '0' ≤ c && c ≤ '9'

def ofDigits (cs : List Char) : Nat := Nat.ofDigitChars 10 cs 0

/-- Reads a numeral of one or more digits. -/
def natural? (cs : List Char) : Option Nat :=
  if !cs.isEmpty && cs.all isDigit then some (ofDigits cs) else none

/-- The number that a list of digits writes, or the bound if that is smaller. However many digits
there are, no step handles a number above ten times the bound. -/
def ofDigitsUpTo (bound : Nat) (cs : List Char) : Nat :=
  cs.foldl (fun n c => min bound (10 * n + (c.toNat - '0'.toNat))) 0

/-- Reads a numeral below a bound. -/
def naturalBelow? (bound : Nat) (cs : List Char) : Option Nat :=
  if !cs.isEmpty && cs.all isDigit && ofDigitsUpTo bound cs < bound then
    some (ofDigitsUpTo bound cs)
  else none

/-- Reads a signed numeral that fits 64 bits. -/
def signed64? (s : String) : Option Int :=
  match s.toList with
  | '-' :: cs => (naturalBelow? (0x8000000000000000 + 1) cs).map fun n => -(n : Int)
  | '+' :: cs => (naturalBelow? 0x8000000000000000 cs).map Int.ofNat
  | cs => (naturalBelow? 0x8000000000000000 cs).map Int.ofNat

/-- Reads an unsigned numeral that fits 64 bits; a plus sign may stand in front. -/
def unsigned64? (s : String) : Option Nat :=
  match s.toList with
  | '+' :: cs => naturalBelow? UInt64.size cs
  | cs => naturalBelow? UInt64.size cs

def digits (n : Nat) : List Char := Nat.toDigits 10 n

/-- The digits of a number, with zeros in front up to `width` digits. -/
def padded (width n : Nat) : List Char :=
  List.replicate (width - (digits n).length) '0' ++ digits n

def integerText (n : Int) : String :=
  match n with
  | .ofNat m => String.ofList (digits m)
  | .negSucc m => String.ofList ('-' :: digits (m + 1))

theorem isDigit_of_mem_digits {n : Nat} {c : Char} (h : c ∈ digits n) : isDigit c = true := by
  have := Nat.isDigit_of_mem_toDigits (by decide) (by decide) h
  simpa [Char.isDigit, isDigit, Char.le_def] using this

theorem digits_ne_nil (n : Nat) : digits n ≠ [] := Nat.toDigits_ne_nil

@[simp] theorem ofDigits_digits (n : Nat) : ofDigits (digits n) = n :=
  Nat.ofDigitChars_ten_toDigits

@[simp] theorem ofDigits_padded (width n : Nat) : ofDigits (padded width n) = n := by
  unfold padded ofDigits
  rw [Nat.ofDigitChars_append, Nat.ofDigitChars_replicate_zero]
  exact ofDigits_digits n

private theorem foldl_min (bound : Nat) (cs : List Char) (n : Nat) :
    cs.foldl (fun n c => min bound (10 * n + (c.toNat - '0'.toNat))) (min bound n)
      = min bound (Nat.ofDigitChars 10 cs n) := by
  induction cs generalizing n with
  | nil => rfl
  | cons c cs ih =>
    have step : min bound (10 * min bound n + (c.toNat - '0'.toNat))
        = min bound (10 * n + (c.toNat - '0'.toNat)) := by omega
    rw [List.foldl_cons, step, ih, Nat.ofDigitChars_cons]

/-- Stopping at the bound loses nothing below it. -/
theorem ofDigitsUpTo_eq_min (bound : Nat) (cs : List Char) :
    ofDigitsUpTo bound cs = min bound (ofDigits cs) := by
  have h := foldl_min bound cs 0
  rwa [Nat.min_zero] at h

theorem naturalBelow?_eq_filter (bound : Nat) (cs : List Char) :
    naturalBelow? bound cs = (natural? cs).filter (· < bound) := by
  unfold naturalBelow? natural?
  rw [ofDigitsUpTo_eq_min]
  by_cases hd : (!cs.isEmpty && cs.all isDigit) = true
  · by_cases hb : ofDigits cs < bound
    · simp [hd, hb, Option.filter, Nat.min_eq_right (Nat.le_of_lt hb)]
    · simp [hd, hb, Option.filter, Nat.min_eq_left (Nat.le_of_not_lt hb)]
  · simp [hd]

theorem natural?_digits (n : Nat) : natural? (digits n) = some n := by
  have hall : (digits n).all isDigit = true :=
    List.all_eq_true.2 fun _ h => isDigit_of_mem_digits h
  simp [natural?, hall, digits_ne_nil]

end SessionAuth.Text
