import SessionAuth.Time.Instant

/-!
# The adjustable clock

A clock that moves only when it is told to. It counts milliseconds in a signed word of 64 bits,
so an instant loses what is finer when the clock is set to it, and a count that runs past the end
of the word comes round again. A count that is off the calendar reads as the epoch.
-/

set_option autoImplicit false

namespace SessionAuth

/-- A clock by its count of milliseconds since the epoch. -/
structure Clock where
  millis : Int64
  deriving DecidableEq

namespace Clock

def ofInstant (t : Instant) : Clock := ⟨Int64.ofInt t.unixMillis⟩

def now (c : Clock) : Instant := (Instant.ofUnixMillis? c.millis.toInt).getD Instant.epoch

def advance (c : Clock) (s : Span) : Clock := ⟨c.millis + Int64.ofInt s.millis⟩

end Clock

end SessionAuth
