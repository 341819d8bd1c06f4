/-!
# The calendar

Dates of the Gregorian calendar, extended to all years, against a count of days in which day
zero is 1 January 1970. Inside the computations a year begins on 1 March, so that the leap day is
the last day of a year and the lengths of the months before it repeat every five months; years
then fall into centuries and cycles of four hundred years of equal length.
-/

set_option autoImplicit false

namespace SessionAuth

structure Date where
  year : Int
  month : Nat
  day : Nat
  deriving DecidableEq, Repr

namespace Date

/-- Years divisible by four, but of the full centuries only every fourth. -/
def isLeap (year : Int) : Bool :=
  year % 4 == 0 && (year % 100 != 0 || year % 400 == 0)

def daysInMonth (year : Int) (month : Nat) : Nat :=
  match month with
  | 2 => if isLeap year then 29 else 28
  | 4 | 6 | 9 | 11 => 30
  | _ => 31

def Exists (d : Date) : Prop :=
  1 ≤ d.month ∧ d.month ≤ 12 ∧ 1 ≤ d.day ∧ d.day ≤ daysInMonth d.year d.month

instance (d : Date) : Decidable d.Exists := by unfold Exists; infer_instance

/-- Days from 1 March of year zero to 1 January 1970. -/
def epochOffset : Int := 719468

/-- The count of days at which a date stands. -/
def toDays (d : Date) : Int :=
  let year := if d.month ≤ 2 then d.year - 1 else d.year
  let month : Int := if d.month ≤ 2 then d.month + 9 else (d.month : Int) - 3
  365 * year + year / 4 - year / 100 + year / 400 + (153 * month + 2) / 5 + ((d.day : Int) - 1)
    - epochOffset

/-- The date that stands at a count of days. -/
def ofDays (n : Int) : Date :=
  let n := n + epochOffset
  let cycle := n / 146097
  let inCycle := n % 146097
  let century := min 3 (inCycle / 36524)
  let inCentury := inCycle - 36524 * century
  let group := inCentury / 1461
  let inGroup := inCentury % 1461
  let single := min 3 (inGroup / 365)
  let dayOfYear := inGroup - 365 * single
  let year := 400 * cycle + 100 * century + 4 * group + single
  let month := (5 * dayOfYear + 2) / 153
  let day := dayOfYear - (153 * month + 2) / 5 + 1
  if month < 10 then ⟨year, (month + 3).toNat, day.toNat⟩
  else ⟨year + 1, (month - 9).toNat, day.toNat⟩

/-- The day of the week at a count of days, Sunday being zero. -/
def weekday (n : Int) : Nat := ((n + 4) % 7).toNat

/-- Weekdays as they are written in HTTP dates. -/
def weekdayNames : List String := ["Sun", "Mon", "Tue", "Wed", "Thu", "Fri", "Sat"]

/-- Months as they are written in HTTP dates. -/
def monthNames : List String :=
  ["Jan", "Feb", "Mar", "Apr", "May", "Jun", "Jul", "Aug", "Sep", "Oct", "Nov", "Dec"]

example : toDays ⟨1970, 1, 1⟩ = 0 := by decide
example : ofDays 0 = ⟨1970, 1, 1⟩ := by decide
example : ofDays (toDays ⟨2000, 2, 29⟩) = ⟨2000, 2, 29⟩ := by decide

end Date

end SessionAuth
