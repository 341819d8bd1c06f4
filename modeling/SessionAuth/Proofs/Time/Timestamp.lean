import SessionAuth.Proofs.Text.Numerals
import SessionAuth.Proofs.Time.Calendar
import SessionAuth.Time.Timestamp

set_option autoImplicit false

/-! # Time stamps are read as they were written

Each part of a time stamp has a writer and a reader. The reader takes exactly what the writer wrote,
and leaves the rest of the text, as long as the rest cannot be taken for more of the part: a numeral
is followed by a mark. Put together, the reader of time stamps returns every instant of the calendar
from its text (`Timestamp.read?_timestampChars`): leap seconds, fractions of every length and years
with a sign included.
-/

namespace SessionAuth

namespace Text

/-- Digits are no blanks. -/
theorem isBlank_of_isDigit {c : Char} (h : isDigit c = true) : isBlank c = false := by
  rw [isDigit_iff] at h
  simp only [isBlank, Bool.or_eq_false_iff, Bool.and_eq_false_iff, decide_eq_false_iff_not,
    beq_eq_false_iff_ne]
  omega

theorem trimStart_cons {c : Char} {cs : List Char} (h : isBlank c = false) :
    trimStart (c :: cs) = c :: cs := by
  simp [trimStart, h]

/-- A numeral begins with no blank. -/
theorem IsNumeral.trimStart_append {n : Nat} {cs rest : List Char} (h : IsNumeral n cs) :
    trimStart (cs ++ rest) = cs ++ rest := by
  cases cs with
  | nil => exact absurd rfl h.nonempty
  | cons c cs => exact trimStart_cons (isBlank_of_isDigit (h.digits c List.mem_cons_self))

end Text

namespace Timestamp

open Text

variable {rest : List Char}

/-! ## Parts -/

theorem number?_append {limit : Option Nat} {n : Nat} {cs : List Char} (h : IsNumeral n cs)
    (hn : n < pastCalendar) (hlimit : ∀ k ∈ limit, cs.length ≤ k) (hrest : StopsDigits rest) :
    number? limit (cs ++ rest) = some (n, rest) := by
  have hvalue : ofDigitsUpTo pastCalendar cs = n := by
    rw [ofDigitsUpTo_eq_min, h.value, Nat.min_eq_right (Nat.le_of_lt hn)]
  unfold number?
  rw [h.takeWhile_append hrest]
  have htake : ∀ ds, ds = cs →
      (if ds.isEmpty then none
        else some (ofDigitsUpTo pastCalendar ds, (cs ++ rest).drop ds.length)) =
          some (n, rest) := by
    rintro ds rfl
    rw [if_neg (by simpa using h.nonempty), hvalue, List.drop_left]
  cases limit with
  | none => exact htake cs rfl
  | some k => exact htake _ (List.take_of_length_le (hlimit k rfl))

/-- A number of two digits is read between its bounds. -/
theorem field?_append {low high n : Nat} (hn : n < 100) (hlow : low ≤ n) (hhigh : n ≤ high)
    (hrest : StopsDigits rest) : field? low high (padded 2 n ++ rest) = some (n, rest) := by
  have hnumeral : IsNumeral n (padded 2 n) := isNumeral_padded 2 n
  have hlength : (padded 2 n).length = 2 := length_padded (by decide) hn
  have hpast : n < pastCalendar := Nat.lt_trans hn (by decide)
  unfold field?
  rw [hnumeral.trimStart_append, number?_append hnumeral hpast (by simp [hlength]) hrest]
  exact if_pos ⟨hlow, hhigh⟩

theorem mark?_cons {c : Char} (h : isBlank c = false) : mark? c (c :: rest) = some rest := by
  simp [mark?, trimStart_cons h]

theorem year?_append {year : Int} (hyear : year.natAbs < pastCalendar) (hrest : StopsDigits rest) :
    year? (yearText year ++ rest) = some (year, rest) := by
  have hnumeral : IsNumeral year.natAbs (padded 4 year.natAbs) := isNumeral_padded 4 _
  have hsigned : number? none (padded 4 year.natAbs ++ rest) = some (year.natAbs, rest) :=
    number?_append hnumeral hyear (by simp) hrest
  unfold yearText
  by_cases hplain : 0 ≤ year ∧ year < 10000
  · have habs : year.toNat = year.natAbs := by omega
    have hcast : (year.natAbs : Int) = year := by omega
    have hlength : (padded 4 year.natAbs).length = 4 :=
      length_padded (by decide) (show year.natAbs < 10000 by omega)
    have hfour : number? (some 4) (padded 4 year.natAbs ++ rest) = some (year.natAbs, rest) :=
      number?_append hnumeral hyear (by simp [hlength]) hrest
    rw [if_pos hplain, habs]
    unfold year?
    rw [hnumeral.trimStart_append]
    -- the first digit is no sign, so that the last of the three readings applies
    generalize padded 4 year.natAbs = cs at hnumeral hfour ⊢
    cases cs with
    | nil => exact absurd rfl hnumeral.nonempty
    | cons c cs =>
        obtain ⟨hplus, hminus⟩ := hnumeral.ne_sign
        simp only [List.cons_append] at hfour ⊢
        split
        · next heq => exact absurd (List.cons.inj heq).1 hminus
        · next heq => exact absurd (List.cons.inj heq).1 hplus
        · rw [hfour]
          simp [hcast]
  · rw [if_neg hplain]
    by_cases hneg : year < 0
    · have hcast : -(year.natAbs : Int) = year := by omega
      rw [if_pos hneg, List.cons_append]
      unfold year?
      rw [trimStart_cons (by decide)]
      simp only [hsigned, Option.map_some, hcast]
    · have hcast : (year.natAbs : Int) = year := by omega
      rw [if_neg hneg, List.cons_append]
      unfold year?
      rw [trimStart_cons (by decide)]
      simp only [hsigned, Option.map_some, hcast]

/-- **A date that exists is read as it is written.** -/
theorem date?_append {d : Date} (hexists : d.Exists) (hyear : d.year.natAbs < pastCalendar)
    (hrest : StopsDigits rest) : date? (Instant.dateText d ++ rest) = some (d, rest) := by
  have hmark : ∀ cs : List Char, StopsDigits ('-' :: cs) := fun cs => stopsDigits_cons cs rfl
  have hlength : Date.daysInMonth d.year d.month ≤ 31 := Date.daysInMonth_le d.year d.month
  obtain ⟨hmonth₁, hmonth₂, hday₁, hday₂⟩ := hexists
  have htext : Instant.dateText d ++ rest =
      yearText d.year ++ ('-' :: (padded 2 d.month ++ ('-' :: (padded 2 d.day ++ rest)))) := by
    simp [Instant.dateText]
  unfold date?
  rw [htext, year?_append hyear (hmark _)]
  simp only [Option.bind_eq_bind, Option.bind_some, mark?_cons (show isBlank '-' = false by decide)]
  rw [field?_append (by omega) hmonth₁ hmonth₂ (hmark _)]
  simp only [Option.bind_some, mark?_cons (show isBlank '-' = false by decide)]
  rw [field?_append (by omega) hday₁ (by omega) hrest]
  exact if_pos ⟨hmonth₁, hmonth₂, hday₁, hday₂⟩

/-- **A fraction of a second is read as it is written**, whatever number of digits it has. -/
theorem fraction?_append {nano : Nat} (hnano : nano < 1000000000) (hrest : StopsDigits rest)
    (hpoint : ∀ c ∈ rest.head?, c ≠ '.') :
    fraction? (Instant.fractionText nano ++ rest) = some (nano, rest) := by
  have hdigits : ∀ width n, 0 < width → width ≤ 9 → n < Nat.pow 10 width →
      n * Nat.pow 10 (9 - width) = nano →
      fraction? ('.' :: padded width n ++ rest) = some (nano, rest) := by
    intro width n hwidth hnine hn hscaled
    have hnumeral : IsNumeral n (padded width n) := isNumeral_padded width n
    have hlength : (padded width n).length = width := length_padded hwidth hn
    have htake : (padded width n).take 9 = padded width n :=
      List.take_of_length_le (by omega)
    simp only [fraction?, List.cons_append, hnumeral.takeWhile_append hrest,
      hnumeral.dropWhile_append hrest, htake, hlength, hnumeral.value]
    rw [if_neg (by simpa using hnumeral.nonempty)]
    exact congrArg (fun n => some (n, rest)) hscaled
  unfold Instant.fractionText
  split
  · next hzero =>
    subst hzero
    -- no fraction was written, and no point follows
    unfold fraction?
    split
    · next heq => exact absurd rfl (hpoint '.' (by rw [← List.nil_append rest, heq]; rfl))
    · rfl
  · split
    · exact hdigits 3 _ (by decide) (by decide) (show nano / 1000000 < 1000 by omega)
        (show nano / 1000000 * 1000000 = nano by omega)
    · split
      · exact hdigits 6 _ (by decide) (by decide) (show nano / 1000 < 1000000 by omega)
          (show nano / 1000 * 1000 = nano by omega)
      · exact hdigits 9 _ (by decide) (by decide) hnano (Nat.mul_one nano)

theorem stopsDigits_fraction {nano : Nat} (hrest : StopsDigits rest) :
    StopsDigits (Instant.fractionText nano ++ rest) := by
  have hpoint : ∀ cs, StopsDigits ('.' :: cs ++ rest) := fun cs => stopsDigits_cons _ rfl
  unfold Instant.fractionText
  split
  · exact hrest
  · split
    · exact hpoint _
    · split
      · exact hpoint _
      · exact hpoint _

/-- **A time of day is read as it is written.** The sixtieth second is the leap of the one
before. -/
theorem timeOfDay?_append (t : Instant) (hrest : StopsDigits rest)
    (hpoint : ∀ c ∈ rest.head?, c ≠ '.') :
    timeOfDay? (t.clockText ++ Instant.fractionText (t.nano % 1000000000) ++ rest) =
      some ((t.second, t.nano), rest) := by
  obtain ⟨fraction, hfraction⟩ :
      ∃ fraction, fraction = Instant.fractionText (t.nano % 1000000000) ++ rest := ⟨_, rfl⟩
  have hsecond := t.second_lt
  have hnano : t.nano < 2000000000 ∧ (1000000000 ≤ t.nano → t.second % 60 = 59) := by
    have hlt := t.nano_lt
    split at hlt
    · omega
    · omega
  have hmark : ∀ cs : List Char, StopsDigits (':' :: cs) := fun cs => stopsDigits_cons cs rfl
  have htext : t.clockText ++ Instant.fractionText (t.nano % 1000000000) ++ rest =
      padded 2 (t.second / 3600) ++ (':' :: (padded 2 (t.second / 60 % 60) ++
        (':' :: (padded 2 (t.second % 60 + t.nano / 1000000000) ++ fraction)))) := by
    simp [Instant.clockText, Instant.clockParts, hfraction]
  have hread : fraction? fraction = some (t.nano % 1000000000, rest) :=
    hfraction ▸ fraction?_append (Nat.mod_lt _ (by decide)) hrest hpoint
  have hstops : StopsDigits fraction := hfraction ▸ stopsDigits_fraction hrest
  unfold timeOfDay?
  rw [htext, field?_append (by omega) (by omega) (by omega) (hmark _)]
  simp only [Option.bind_eq_bind, Option.bind_some, mark?_cons (show isBlank ':' = false by decide)]
  rw [field?_append (by omega) (by omega) (by omega) (hmark _)]
  simp only [Option.bind_some, mark?_cons (show isBlank ':' = false by decide)]
  rw [field?_append (by omega) (by omega) (by omega) hstops]
  simp only [Option.bind_some, hread]
  -- a leap second is written as the sixtieth and read as the nanoseconds past the fifty-ninth
  by_cases hleap : 1000000000 ≤ t.nano
  · have hsixty : t.second % 60 + t.nano / 1000000000 = 60 := by omega
    have hstart : t.second / 3600 * 3600 + t.second / 60 % 60 * 60 + 59 = t.second := by omega
    have hrest : t.nano % 1000000000 + 1000000000 = t.nano := by omega
    rw [if_pos hsixty, hstart, hrest]
  · have hplain : t.second % 60 + t.nano / 1000000000 = t.second % 60 := by omega
    have hstart : t.second / 3600 * 3600 + t.second / 60 % 60 * 60 + t.second % 60 = t.second := by
      omega
    have hrest : t.nano % 1000000000 = t.nano := by omega
    rw [hplain, if_neg (by omega), hstart, hrest]

/-! ## Time stamps -/

theorem toUniversal?_zero (t : Instant) : toUniversal? t.day t.second t.nano 0 = some t := by
  have hvalid : Instant.Valid t.day t.second t.nano :=
    ⟨t.day_ge, t.day_le, t.second_lt, t.nano_lt⟩
  have hsecond := t.second_lt
  have hday : t.day + ((t.second : Int) - 0 * 60) / 86400 = t.day := by omega
  have hrest : (((t.second : Int) - 0 * 60) % 86400).toNat = t.second := by omega
  unfold toUniversal?
  rw [if_pos ⟨by decide, hvalid⟩]
  simp only [hday, hrest, Instant.ofReading?_self]

/-- **Every instant is read back from its time stamp.** -/
theorem read?_timestampChars (t : Instant) : read? t.timestampChars = some t := by
  have htext : t.timestampChars = Instant.dateText t.date ++
      ('T' :: (t.clockText ++ Instant.fractionText (t.nano % 1000000000) ++ ['Z'])) := by
    simp [Instant.timestampChars]
  have hdate : date? t.timestampChars = some (t.date,
      'T' :: (t.clockText ++ Instant.fractionText (t.nano % 1000000000) ++ ['Z'])) := by
    rw [htext]
    exact date?_append (Date.exists_ofDays t.day)
      (Date.natAbs_year_ofDays_lt t.day_ge t.day_le) (stopsDigits_cons _ rfl)
  have htime : timeOfDay? (t.clockText ++ Instant.fractionText (t.nano % 1000000000) ++ ['Z']) =
      some ((t.second, t.nano), ['Z']) := by
    refine timeOfDay?_append t (stopsDigits_cons _ rfl) fun c hc => ?_
    cases hc
    decide
  have hdays : t.date.toDays = t.day := Date.toDays_ofDays t.day
  unfold read?
  simp only [hdate, Option.bind_eq_bind, Option.bind_some, divider?, htime]
  change (if true = true then toUniversal? t.date.toDays t.second t.nano 0 else none) = some t
  rw [if_pos rfl, hdays, toUniversal?_zero]

end Timestamp
end SessionAuth
