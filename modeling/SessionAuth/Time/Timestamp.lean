import SessionAuth.Text.Blank
import SessionAuth.Time.Instant

/-!
# Time stamps

An instant is written as `2023-11-14T22:13:20Z`: date, `T`, time of day, and `Z` for universal
time. A fraction is written with three, six or nine digits, the fewest that lose nothing. A leap
second has the number sixty. Years of four digits stand alone; any other year has a sign.

The reader is more liberal than the writer. It takes blanks around the marks of a date and of a
time, one or two digits where the writer has two, a fraction of any length, a lower-case `t` or a
blank for the `T`, and any offset from universal time.
-/

set_option autoImplicit false

namespace SessionAuth

/-- A year of the first ten thousand has four digits; any other has a sign and at least four. -/
def yearText (year : Int) : List Char :=
  if 0 ≤ year ∧ year < 10000 then Text.padded 4 year.toNat
  else (if year < 0 then '-' else '+') :: Text.padded 4 year.natAbs

namespace Instant

def date (t : Instant) : Date := Date.ofDays t.day

/-- Hour, minute and second of the day, the leap second being the sixtieth. -/
def clockParts (t : Instant) : Nat × Nat × Nat :=
  (t.second / 3600, t.second / 60 % 60, t.second % 60 + t.nano / 1000000000)

def clockText (t : Instant) : List Char :=
  let (h, m, s) := t.clockParts
  Text.padded 2 h ++ ':' :: Text.padded 2 m ++ ':' :: Text.padded 2 s

/-- A fraction of a second with a point in front, in three, six or nine digits. -/
def fractionText (nano : Nat) : List Char :=
  if nano = 0 then []
  else if nano % 1000000 = 0 then '.' :: Text.padded 3 (nano / 1000000)
  else if nano % 1000 = 0 then '.' :: Text.padded 6 (nano / 1000)
  else '.' :: Text.padded 9 nano

def dateText (d : Date) : List Char :=
  yearText d.year ++ '-' :: Text.padded 2 d.month ++ '-' :: Text.padded 2 d.day

def timestampChars (t : Instant) : List Char :=
  dateText t.date ++ 'T' :: t.clockText ++ fractionText (t.nano % 1000000000) ++ ['Z']

def timestamp (t : Instant) : String := String.ofList t.timestampChars

end Instant

namespace Timestamp

/-- A number that lies past every year of the calendar. -/
def pastCalendar : Nat := 1000000

/-- Reads digits, at least one and, if there is a limit, at most that many. A number past the
calendar is read as the first of them, since no reader below takes any. -/
def number? (limit : Option Nat) (cs : List Char) : Option (Nat × List Char) :=
  let ds := cs.takeWhile Text.isDigit
  let ds := match limit with
    | some n => ds.take n
    | none => ds
  if ds.isEmpty then none else some (Text.ofDigitsUpTo pastCalendar ds, cs.drop ds.length)

/-- Reads a number of one or two digits, after any blanks, that lies between two bounds. -/
def field? (low high : Nat) (cs : List Char) : Option (Nat × List Char) := do
  let (n, cs) ← number? (some 2) (Text.trimStart cs)
  if low ≤ n ∧ n ≤ high then some (n, cs) else none

/-- Reads a year, after any blanks: up to four digits, or any number of them after a sign. -/
def year? (cs : List Char) : Option (Int × List Char) :=
  match Text.trimStart cs with
  | '-' :: cs => (number? none cs).map fun (n, cs) => (-(n : Int), cs)
  | '+' :: cs => (number? none cs).map fun (n, cs) => ((n : Int), cs)
  | cs => (number? (some 4) cs).map fun (n, cs) => ((n : Int), cs)

/-- Reads a mark after any blanks. -/
def mark? (c : Char) (cs : List Char) : Option (List Char) :=
  match Text.trimStart cs with
  | d :: cs => if d = c then some cs else none
  | [] => none

def date? (cs : List Char) : Option (Date × List Char) := do
  let (year, cs) ← year? cs
  let cs ← mark? '-' cs
  let (month, cs) ← field? 1 12 cs
  let cs ← mark? '-' cs
  let (day, cs) ← field? 1 31 cs
  let d : Date := ⟨year, month, day⟩
  if d.Exists then some (d, cs) else none

/-- Reads the mark between date and time. -/
def divider? : List Char → Option (List Char)
  | 't' :: cs | 'T' :: cs | ' ' :: cs => some cs
  | _ => none

/-- Reads a fraction of a second, in nanoseconds, if a point is there; digits after the ninth
are passed over. -/
def fraction? (cs : List Char) : Option (Nat × List Char) :=
  match cs with
  | '.' :: cs =>
    let ds := cs.takeWhile Text.isDigit
    if ds.isEmpty then none
    else
      let kept := ds.take 9
      some (Text.ofDigits kept * Nat.pow 10 (9 - kept.length), cs.dropWhile Text.isDigit)
  | cs => some (0, cs)

/-- A time of day as it is read: second of the day and nanoseconds, the sixtieth second of a
minute being the leap of the one before. -/
def timeOfDay? (cs : List Char) : Option ((Nat × Nat) × List Char) := do
  let (hour, cs) ← field? 0 23 cs
  let cs ← mark? ':' cs
  let (minute, cs) ← field? 0 59 cs
  let cs ← mark? ':' cs
  let (second, cs) ← field? 0 60 cs
  let (nano, cs) ← fraction? cs
  let start := hour * 3600 + minute * 60
  if second = 60 then some ((start + 59, nano + 1000000000), cs)
  else some ((start + second, nano), cs)

def twoDigits? (high : Nat) : List Char → Option (Nat × List Char)
  | a :: b :: cs =>
    let n := Text.ofDigits [a, b]
    if Text.isDigit a ∧ Text.isDigit b ∧ n ≤ high then some (n, cs) else none
  | _ => none

/-- Reads hours and minutes of an offset, colons and blanks between them passed over, as a number
of minutes. -/
def hoursMinutes? (cs : List Char) : Option (Nat × List Char) := do
  let (hours, cs) ← twoDigits? 99 cs
  let (minutes, cs) ← twoDigits? 59 (cs.dropWhile fun c => c == ':' || Text.isBlank c)
  some (hours * 60 + minutes, cs)

/-- Reads an offset from universal time, in minutes east of it. -/
def offset? (cs : List Char) : Option (Int × List Char) :=
  match cs with
  | u :: t :: c :: rest =>
    if u.toLower = 'u' ∧ t.toLower = 't' ∧ c.toLower = 'c' then some (0, rest) else signed cs
  | cs => signed cs
where
  signed : List Char → Option (Int × List Char)
    | 'Z' :: cs | 'z' :: cs => some (0, cs)
    | '+' :: cs => (hoursMinutes? cs).map fun (n, cs) => ((n : Int), cs)
    | '-' :: cs | '\u2212' :: cs => (hoursMinutes? cs).map fun (n, cs) => (-(n : Int), cs)
    | _ => none

/-- Moves a reading of local time to universal time, if both are on the calendar and the offset
is less than a day. -/
def toUniversal? (day : Int) (second nano : Nat) (offset : Int) : Option Instant :=
  if offset.natAbs < 1440 ∧ Instant.Valid day second nano then
    let second := (second : Int) - offset * 60
    Instant.ofReading? (day + second / 86400) (second % 86400).toNat nano
  else none

/-- Reads a time stamp; only blanks may follow it. -/
def read? (cs : List Char) : Option Instant := do
  let (d, cs) ← date? cs
  let cs ← divider? cs
  let ((second, nano), cs) ← timeOfDay? cs
  let (offset, cs) ← offset? (Text.trimStart cs)
  if (Text.trimStart cs).isEmpty then toUniversal? d.toDays second nano offset else none

end Timestamp

end SessionAuth
