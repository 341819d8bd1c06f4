import Mathlib.Tactic.IntervalCases
import SessionAuth.Time.Instant

set_option autoImplicit false

/-! # Dates and counts of days

Every count of days is the count of a date that exists: `Date.toDays_ofDays`, `Date.exists_ofDays`.
Both are read off one decomposition of the count (`Date.exists_parts`) into cycles of four hundred
years, centuries, groups of four years, single years and days, each part with the bound that keeps
it from being a part of the next larger one. The last day of a year, which is the leap day, can only
come in a last single year, and there only if the year that begins then is a leap year.
-/

namespace SessionAuth.Date

/-- The date of a day in a year that begins in March, the first day being day zero. -/
def ofMarch (year dayOfYear : Int) : Date :=
  let month := (5 * dayOfYear + 2) / 153
  let day := dayOfYear - (153 * month + 2) / 5 + 1
  if month < 10 then ⟨year, (month + 3).toNat, day.toNat⟩
  else ⟨year + 1, (month - 9).toNat, day.toNat⟩

/-- The day is one of the 365 that every year has, or the leap day that ends some. -/
def InYear (year dayOfYear : Int) : Prop :=
  0 ≤ dayOfYear ∧ (dayOfYear ≤ 364 ∨ dayOfYear = 365 ∧ isLeap (year + 1) = true)

/-- The day that a year begins with, in March, counted from the first of all. -/
def marchDays (year : Int) : Int := 365 * year + year / 4 - year / 100 + year / 400

theorem isLeap_iff {year : Int} :
    isLeap year = true ↔ year % 4 = 0 ∧ (year % 100 ≠ 0 ∨ year % 400 = 0) := by
  simp [isLeap]

section Parts

variable {cycle century group single : Int}

theorem marchDays_eq (hcentury : 0 ≤ century ∧ century ≤ 3) (hgroup : 0 ≤ group ∧ group ≤ 24)
    (hsingle : 0 ≤ single ∧ single ≤ 3) :
    marchDays (400 * cycle + 100 * century + 4 * group + single) =
      146097 * cycle + 36524 * century + 1461 * group + 365 * single := by
  have h400 : (400 * cycle + 100 * century + 4 * group + single) / 400 = cycle := by omega
  have h100 : (400 * cycle + 100 * century + 4 * group + single) / 100 = 4 * cycle + century := by
    omega
  have h4 : (400 * cycle + 100 * century + 4 * group + single) / 4 =
      100 * cycle + 25 * century + group := by omega
  unfold marchDays
  rw [h400, h100, h4]
  omega

/-- The year after the last single year of a group is a leap year, if the century goes on then or
the cycle ends. -/
theorem isLeap_of_last (h : 0 ≤ group ∧ group ≤ 23 ∨ century = 3 ∧ group = 24) :
    isLeap (400 * cycle + 100 * century + 4 * group + 3 + 1) = true := by
  rw [isLeap_iff]
  rcases h with h | ⟨rfl, rfl⟩
  · omega
  · omega

end Parts

/-- **Every count of days is some day of some year.** -/
theorem exists_parts (n : Int) :
    ∃ year dayOfYear, ofDays n = ofMarch year dayOfYear ∧ InYear year dayOfYear ∧
      n + epochOffset = marchDays year + dayOfYear := by
  -- the parts in the order in which they are split off, each with its bounds
  obtain ⟨m, hm⟩ : ∃ m, m = n + epochOffset := ⟨_, rfl⟩
  obtain ⟨cycle, hcycle⟩ : ∃ cycle, cycle = m / 146097 := ⟨_, rfl⟩
  obtain ⟨inCycle, hinCycle⟩ : ∃ inCycle, inCycle = m % 146097 := ⟨_, rfl⟩
  have hcycle' : m = 146097 * cycle + inCycle ∧ 0 ≤ inCycle ∧ inCycle ≤ 146096 := by omega
  obtain ⟨century, hcentury⟩ : ∃ century, century = min 3 (inCycle / 36524) := ⟨_, rfl⟩
  obtain ⟨inCentury, hinCentury⟩ : ∃ inCentury, inCentury = inCycle - 36524 * century := ⟨_, rfl⟩
  have hcentury' : (0 ≤ century ∧ century ≤ 3) ∧ 0 ≤ inCentury ∧
      (inCentury ≤ 36523 ∨ century = 3 ∧ inCentury = 36524) := by
    clear hm hcycle hinCycle
    omega
  obtain ⟨group, hgroup⟩ : ∃ group, group = inCentury / 1461 := ⟨_, rfl⟩
  obtain ⟨inGroup, hinGroup⟩ : ∃ inGroup, inGroup = inCentury % 1461 := ⟨_, rfl⟩
  have hgroup' : (0 ≤ group ∧ group ≤ 24) ∧ inCentury = 1461 * group + inGroup ∧
      0 ≤ inGroup ∧ inGroup ≤ 1460 := by
    clear hm hcycle hinCycle hcentury hinCentury
    omega
  obtain ⟨single, hsingle⟩ : ∃ single, single = min 3 (inGroup / 365) := ⟨_, rfl⟩
  obtain ⟨dayOfYear, hday⟩ : ∃ dayOfYear, dayOfYear = inGroup - 365 * single := ⟨_, rfl⟩
  have hsingle' : (0 ≤ single ∧ single ≤ 3) ∧ 0 ≤ dayOfYear ∧
      (dayOfYear ≤ 364 ∨ dayOfYear = 365 ∧ single = 3) := by
    clear hm hcycle hinCycle hcentury hinCentury hgroup hinGroup
    omega
  refine ⟨400 * cycle + 100 * century + 4 * group + single, dayOfYear, ?_, ⟨hsingle'.2.1, ?_⟩, ?_⟩
  · subst hday hsingle hinGroup hgroup hinCentury hcentury hinCycle hcycle hm
    rfl
  · refine hsingle'.2.2.imp_right fun ⟨hlast, hthree⟩ => ⟨hlast, ?_⟩
    subst hthree
    refine isLeap_of_last ?_
    clear hcycle hinCycle hcentury hgroup hinGroup hsingle hm
    omega
  · rw [marchDays_eq hcentury'.1 hgroup'.1 hsingle'.1]
    clear hcycle hinCycle hcentury hgroup hinGroup hsingle
    omega

theorem toDays_ofMarch {year dayOfYear : Int} (h : InYear year dayOfYear) :
    toDays (ofMarch year dayOfYear) + epochOffset = marchDays year + dayOfYear := by
  obtain ⟨hlow, hhigh⟩ := h
  have hday : dayOfYear ≤ 365 := by omega
  unfold ofMarch
  dsimp only
  split
  · unfold toDays marchDays
    dsimp only
    rw [if_neg (by omega), if_neg (by omega)]
    omega
  · -- January and February are counted to the year that began in the March before
    unfold toDays marchDays
    dsimp only
    rw [if_pos (by omega), if_pos (by omega)]
    omega

/-! ## Months -/

theorem daysInMonth_le (year : Int) (month : Nat) : daysInMonth year month ≤ 31 := by
  unfold daysInMonth
  split
  · split
    · decide
    · decide
  all_goals decide

/-- The day of the year with which a month begins, months being counted from March. -/
def monthStart (month : Nat) : Nat := (153 * month + 2) / 5

/-- A day of the year is a day of some month, before the next one would begin. -/
theorem exists_month (year : Int) {dayOfYear : Int} (hlow : 0 ≤ dayOfYear)
    (hhigh : dayOfYear ≤ 365) :
    ∃ month day : Nat, month ≤ 11 ∧ dayOfYear = (monthStart month + day : Nat) ∧
      monthStart month + day < monthStart (month + 1) ∧
      ofMarch year dayOfYear =
        if month < 10 then ⟨year, month + 3, day + 1⟩ else ⟨year + 1, month - 9, day + 1⟩ := by
  obtain ⟨n, rfl⟩ : ∃ n : Nat, dayOfYear = n := Int.eq_ofNat_of_zero_le hlow
  let month := (5 * n + 2) / 153
  let day := n - (153 * month + 2) / 5
  have hday : monthStart month + day = n := by
    unfold monthStart
    omega
  have hnext : n < monthStart (month + 1) := by
    unfold monthStart
    omega
  refine ⟨month, day, by omega, congrArg Nat.cast hday.symm, hday ▸ hnext, ?_⟩
  have hmonth : (5 * (n : Int) + 2) / 153 = month := by omega
  have hsucc : ((n : Int) - (153 * month + 2) / 5 + 1).toNat = day + 1 := by
    unfold monthStart at hday
    omega
  unfold ofMarch
  simp only [hmonth, hsucc]
  by_cases hlt : month < 10
  · have hthree : ((month : Int) + 3).toNat = month + 3 := by omega
    rw [if_pos hlt, if_pos (by omega), hthree]
  · have hnine : ((month : Int) - 9).toNat = month - 9 := by omega
    rw [if_neg hlt, if_neg (by omega), hnine]

/-- A month but the last, which is February, ends where the next one begins. -/
theorem start_add_daysInMonth (year : Int) {month : Nat} (h : month < 11) :
    monthStart month + daysInMonth year (if month < 10 then month + 3 else month - 9) =
      monthStart (month + 1) := by
  interval_cases month
  all_goals rfl

theorem exists_ofMarch {year dayOfYear : Int} (h : InYear year dayOfYear) :
    (ofMarch year dayOfYear).Exists := by
  obtain ⟨hlow, hhigh⟩ := h
  obtain ⟨month, day, hmonth, hday, hnext, hdate⟩ := exists_month year hlow (by omega)
  rw [hdate]
  by_cases hfebruary : month = 11
  · subst hfebruary
    have hstart : monthStart 11 = 337 := rfl
    have hlength : day + 1 ≤ if isLeap (year + 1) then 29 else 28 := by
      rcases hhigh with hordinary | ⟨hlast, hleap⟩
      · split
        · omega
        · omega
      · rw [if_pos hleap]
        omega
    exact ⟨by simp, by simp, by simp, hlength⟩
  · have hlength := start_add_daysInMonth (if month < 10 then year else year + 1)
      (show month < 11 by omega)
    by_cases hlt : month < 10
    · rw [if_pos hlt, if_pos hlt] at hlength
      rw [if_pos hlt]
      exact ⟨by simp, by simp; omega, by simp, by simp; omega⟩
    · rw [if_neg hlt, if_neg hlt] at hlength
      rw [if_neg hlt]
      exact ⟨by simp; omega, by simp; omega, by simp, by simp; omega⟩

/-! ## Counts of days -/

/-- **A count of days is the count of its date.** -/
theorem toDays_ofDays (n : Int) : toDays (ofDays n) = n := by
  obtain ⟨year, dayOfYear, hdate, hday, hcount⟩ := exists_parts n
  have h := toDays_ofMarch hday
  rw [hdate]
  omega

theorem exists_ofDays (n : Int) : (ofDays n).Exists := by
  obtain ⟨year, dayOfYear, hdate, hday, -⟩ := exists_parts n
  rw [hdate]
  exact exists_ofMarch hday

/-- The years of the calendar have six digits at most. -/
theorem natAbs_year_ofDays_lt {n : Int} (hlow : -96465292 ≤ n) (hhigh : n ≤ 95026236) :
    (ofDays n).year.natAbs < 1000000 := by
  obtain ⟨year, dayOfYear, hdate, ⟨hday₁, hday₂⟩, hcount⟩ := exists_parts n
  obtain ⟨month, day, -, -, -, hmarch⟩ := exists_month year hday₁ (by omega)
  have hyear : year.natAbs < 999999 := by
    unfold marchDays epochOffset at hcount
    omega
  rw [hdate, hmarch]
  split
  · simp only
    omega
  · simp only
    omega

end SessionAuth.Date
