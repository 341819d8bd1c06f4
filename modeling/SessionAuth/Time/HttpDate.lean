import SessionAuth.Time.Timestamp

/-!
# HTTP dates

The `Expires` attribute of a cookie names an instant as `Tue, 21 Nov 2023 22:13:20 GMT`, cut to
the second.
-/

set_option autoImplicit false

namespace SessionAuth.Instant

def weekdayName (t : Instant) : String :=
  Date.weekdayNames.getD (Date.weekday t.day) ""

def monthName (d : Date) : String := Date.monthNames.getD (d.month - 1) ""

def httpDate (t : Instant) : String :=
  let d := t.date
  t.weekdayName ++ ", " ++ String.ofList (Text.padded 2 d.day) ++ " " ++ monthName d ++ " " ++
    String.ofList (yearText d.year) ++ " " ++ String.ofList t.clockText ++ " GMT"

end SessionAuth.Instant
