import SessionAuth.Time.Calendar
import SessionAuth.Time.Span

/-!
# Instants

An instant is a reading of the universal clock: a day, a second of that day, and nanoseconds.
The last second of any minute may run on for a second billion of nanoseconds; that is how a leap
second is read. The calendar is finite, so that adding a span can leave it.

Instants are ordered as their readings are, day first. Adding a span treats a leap second as
follows: a span shorter than a second that stays inside moves only the nanoseconds; any other
span counts as if the reading had been an ordinary one, of the second before the leap when the
span points forward and of the second after it when it points back.
-/

set_option autoImplicit false

namespace SessionAuth

structure Instant where
  /-- Days since 1 January 1970. -/
  day : Int
  /-- Seconds since midnight. -/
  second : Nat
  /-- Nanoseconds since the second began; a leap second is read from one billion on. -/
  nano : Nat
  day_ge : -96465292 ≤ day := by omega
  day_le : day ≤ 95026236 := by omega
  second_lt : second < 86400 := by omega
  nano_lt : nano < if second % 60 = 59 then 2000000000 else 1000000000 := by omega
  deriving DecidableEq

namespace Instant

/-- The reading is on the calendar, which runs from 1 January of the year -262143 to 31 December of
the year 262142. -/
def Valid (day : Int) (second nano : Nat) : Prop :=
  -96465292 ≤ day ∧ day ≤ 95026236 ∧ second < 86400 ∧
    nano < if second % 60 = 59 then 2000000000 else 1000000000

instance (day : Int) (second nano : Nat) : Decidable (Valid day second nano) := by
  unfold Valid; infer_instance

/-- The instant with the given reading, if it is on the calendar. -/
def ofReading? (day : Int) (second nano : Nat) : Option Instant :=
  if h : Valid day second nano then some ⟨day, second, nano, h.1, h.2.1, h.2.2.1, h.2.2.2⟩
  else none

def epoch : Instant := ⟨0, 0, 0, by decide, by decide, by decide, by decide⟩

/-- The instant `nano` nanoseconds into the `second`-th second since the epoch. -/
def ofUnix? (second : Int) (nano : Nat) : Option Instant :=
  ofReading? (second / 86400) (second % 86400).toNat nano

/-- The instant a number of milliseconds after the epoch. -/
def ofUnixMillis? (millis : Int) : Option Instant :=
  ofUnix? (millis / 1000) ((millis % 1000).toNat * 1000000)

def unix (t : Instant) : Int := t.day * 86400 + t.second

/-- Whole milliseconds since the epoch; a leap second spills over into the second after it. -/
def unixMillis (t : Instant) : Int := t.unix * 1000 + t.nano / 1000000

/-- Where an instant stands among all others: each second has room for its leap second. -/
def rank (t : Instant) : Int := t.unix * 2000000000 + t.nano

instance : LT Instant := ⟨fun a b => a.rank < b.rank⟩

instance : LE Instant := ⟨fun a b => a.rank ≤ b.rank⟩

instance (a b : Instant) : Decidable (a < b) := inferInstanceAs (Decidable (a.rank < b.rank))

instance (a b : Instant) : Decidable (a ≤ b) := inferInstanceAs (Decidable (a.rank ≤ b.rank))

/-- The reading `nanos` nanoseconds after an ordinary reading. -/
def shifted? (day : Int) (second : Int) (nano : Int) (nanos : Int) : Option Instant :=
  let total := second * 1000000000 + nano + nanos
  let perDay : Int := 86400 * 1000000000
  let inDay := total % perDay
  ofReading? (day + total / perDay) (inDay / 1000000000).toNat (inDay % 1000000000).toNat

/-- The instant a span later, if it is on the calendar. -/
def add? (t : Instant) (s : Span) : Option Instant :=
  if t.nano < 1000000000 then shifted? t.day t.second t.nano s.nanos
  else if s.nanos.natAbs < 1000000000 ∧ t.nano + s.nanos < 2000000000 then
    ofReading? t.day t.second (t.nano + s.nanos).toNat
  else if 0 < s.nanos then shifted? t.day t.second (t.nano - 1000000000) s.nanos
  else shifted? t.day (t.second + 1) (t.nano - 1000000000) s.nanos

def sub? (t : Instant) (s : Span) : Option Instant := t.add? (-s)

/-- The span from `b` to `a`; a leap second that lies between their times of day counts. -/
def since (a b : Instant) : Span :=
  let leap : Int :=
    if b.second < a.second ∧ 1000000000 ≤ b.nano then 1
    else if a.second < b.second ∧ 1000000000 ≤ a.nano then -1
    else 0
  let seconds := (a.day - b.day) * 86400 + ((a.second : Int) - b.second) + leap
  ⟨seconds * 1000000000 + ((a.nano : Int) - b.nano)⟩

@[simp] theorem ofReading?_self (t : Instant) : ofReading? t.day t.second t.nano = some t := by
  have h : Valid t.day t.second t.nano := ⟨t.day_ge, t.day_le, t.second_lt, t.nano_lt⟩
  simp [ofReading?, h]

theorem lt_iff_rank {a b : Instant} : a < b ↔ a.rank < b.rank := Iff.rfl

end Instant

end SessionAuth
