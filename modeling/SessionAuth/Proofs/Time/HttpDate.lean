import SessionAuth.Proofs.Text.Numerals
import SessionAuth.Proofs.Time.Calendar
import SessionAuth.Proofs.Time.Elapsed
import SessionAuth.Time.HttpDate

set_option autoImplicit false

/-! # HTTP dates name what they were written for

The reader of HTTP dates takes the one fixed form `Tue, 21 Nov 2023 22:13:20 GMT`: every part has its
width, the names are those of the tables, the date has to exist, and the weekday has to be that of
the date. An instant outside of leap seconds, in a year of four digits, is read back from its date
as it was at the beginning of its second: `HttpDate.read?_httpDate`.
-/

namespace SessionAuth

/-! ## Names and seconds -/

namespace Instant

/-- The instant at which the second of a reading began. -/
def toSecond (t : Instant) : Instant where
  day := t.day
  second := t.second
  nano := 0
  day_ge := t.day_ge
  day_le := t.day_le
  second_lt := t.second_lt
  nano_lt := by split <;> decide

/-- The names of weekdays are told apart and have three letters. -/
theorem weekdayName_place (t : Instant) :
    Date.weekdayNames.idxOf? t.weekdayName = some (Date.weekday t.day) ∧
      t.weekdayName.toList.length = 3 := by
  have hplaces : ∀ i < 7, Date.weekdayNames.idxOf? (Date.weekdayNames.getD i "") = some i ∧
      (Date.weekdayNames.getD i "").toList.length = 3 := by decide
  refine hplaces (Date.weekday t.day) ?_
  unfold Date.weekday
  omega

theorem monthName_place {d : Date} (h : d.Exists) :
    Date.monthNames.idxOf? (monthName d) = some (d.month - 1) ∧
      (monthName d).toList.length = 3 := by
  have hplaces : ∀ i < 12, Date.monthNames.idxOf? (Date.monthNames.getD i "") = some i ∧
      (Date.monthNames.getD i "").toList.length = 3 := by decide
  refine hplaces (d.month - 1) ?_
  have := h.1
  have := h.2.1
  omega

end Instant

namespace HttpDate

/-! ## The reader -/

/-- Reads a name of a table, all of which have three letters, as its place there. -/
def name? (names : List String) (cs : List Char) : Option (Nat × List Char) :=
  (names.idxOf? (String.ofList (cs.take 3))).map fun i => (i, cs.drop 3)

/-- Reads a numeral of exactly so many digits. -/
def numeral? (width : Nat) (cs : List Char) : Option (Nat × List Char) :=
  if (cs.take width).length = width then
    (Text.natural? (cs.take width)).map fun n => (n, cs.drop width)
  else none

/-- Reads exactly these characters. -/
def marks? (marks cs : List Char) : Option (List Char) :=
  if marks <+: cs then some (cs.drop marks.length) else none

/-- Reads a weekday and a date, of which it has to be the weekday. -/
def date? (cs : List Char) : Option (Date × List Char) := do
  let (weekday, cs) ← name? Date.weekdayNames cs
  let cs ← marks? [',', ' '] cs
  let (day, cs) ← numeral? 2 cs
  let cs ← marks? [' '] cs
  let (month, cs) ← name? Date.monthNames cs
  let cs ← marks? [' '] cs
  let (year, cs) ← numeral? 4 cs
  let d : Date := ⟨year, month + 1, day⟩
  if d.Exists ∧ Date.weekday d.toDays = weekday then some (d, cs) else none

/-- Reads a time of day as a second of the day. -/
def clock? (cs : List Char) : Option (Nat × List Char) := do
  let (hour, cs) ← numeral? 2 cs
  let cs ← marks? [':'] cs
  let (minute, cs) ← numeral? 2 cs
  let cs ← marks? [':'] cs
  let (second, cs) ← numeral? 2 cs
  if hour < 24 ∧ minute < 60 ∧ second < 60 then some (hour * 3600 + minute * 60 + second, cs)
  else none

/-- Reads an HTTP date, after which nothing may follow. -/
def read? (cs : List Char) : Option Instant := do
  let (d, cs) ← date? cs
  let cs ← marks? [' '] cs
  let (second, cs) ← clock? cs
  let cs ← marks? [' ', 'G', 'M', 'T'] cs
  if cs = [] then Instant.ofReading? d.toDays second 0 else none

/-! ## Parts -/

variable {t : Instant} {rest : List Char}

theorem name?_append {names : List String} {name : String} {i : Nat}
    (hplace : names.idxOf? name = some i) (hlength : name.toList.length = 3) :
    name? names (name.toList ++ rest) = some (i, rest) := by
  have htake : (name.toList ++ rest).take 3 = name.toList := by
    rw [← hlength, List.take_left]
  have hdrop : (name.toList ++ rest).drop 3 = rest := by
    rw [← hlength, List.drop_left]
  rw [name?, htake, hdrop, String.ofList_toList, hplace]
  rfl

theorem numeral?_append {width n : Nat} (hwidth : 0 < width) (hn : n < Nat.pow 10 width) :
    numeral? width (Text.padded width n ++ rest) = some (n, rest) := by
  have hlength : (Text.padded width n).length = width := Text.length_padded hwidth hn
  have htake : (Text.padded width n ++ rest).take width = Text.padded width n := by
    nth_rewrite 1 [← hlength]
    exact List.take_left
  have hdrop : (Text.padded width n ++ rest).drop width = rest := by
    nth_rewrite 1 [← hlength]
    exact List.drop_left
  rw [numeral?, htake, hdrop, if_pos hlength,
    Text.natural?_eq_some_iff.2 (Text.isNumeral_padded width n)]
  rfl

theorem marks?_append (marks : List Char) : marks? marks (marks ++ rest) = some rest := by
  rw [marks?, if_pos (List.prefix_append marks rest), List.drop_left]

/-- The date of an instant is read back, with its weekday. -/
theorem date?_append (hyear : 0 ≤ t.date.year ∧ t.date.year < 10000) :
    date? (t.weekdayName.toList ++ ([',', ' '] ++ (Text.padded 2 t.date.day ++ ([' '] ++
      ((Instant.monthName t.date).toList ++ ([' '] ++
        (Text.padded 4 t.date.year.toNat ++ rest))))))) = some (t.date, rest) := by
  obtain ⟨hweekday, hweekday'⟩ := t.weekdayName_place
  have hexists : t.date.Exists := Date.exists_ofDays t.day
  obtain ⟨hmonth, hmonth'⟩ := Instant.monthName_place hexists
  have hday : t.date.day < 100 :=
    Nat.lt_of_le_of_lt (hexists.2.2.2.trans (Date.daysInMonth_le _ _)) (by decide)
  have hdate : (⟨(t.date.year.toNat : Nat), t.date.month - 1 + 1, t.date.day⟩ : Date) = t.date := by
    have hmonth₁ := hexists.1
    have hy : (t.date.year.toNat : Int) = t.date.year := by omega
    have hm : t.date.month - 1 + 1 = t.date.month := by omega
    rw [hy, hm]
  have hdays : t.date.toDays = t.day := Date.toDays_ofDays t.day
  unfold date?
  rw [name?_append hweekday hweekday']
  simp only [Option.bind_eq_bind, Option.bind_some, marks?_append]
  rw [numeral?_append (by decide) (show t.date.day < Nat.pow 10 2 from hday)]
  simp only [Option.bind_some, marks?_append]
  rw [name?_append hmonth hmonth']
  simp only [Option.bind_some, marks?_append]
  rw [numeral?_append (by decide) (show t.date.year.toNat < 10000 by omega)]
  simp only [Option.bind_some, hdate, hdays]
  exact if_pos ⟨hexists, trivial⟩

/-- The time of day of an instant outside of leap seconds is read back. -/
theorem clock?_append (hleap : ¬ t.IsLeap) : clock? (t.clockText ++ rest) = some (t.second, rest) := by
  have hsecond := t.second_lt
  have hnano : t.nano / 1000000000 = 0 := Nat.div_eq_of_lt (Nat.not_le.1 hleap)
  have htext : t.clockText ++ rest = Text.padded 2 (t.second / 3600) ++ ([':'] ++
      (Text.padded 2 (t.second / 60 % 60) ++ ([':'] ++
        (Text.padded 2 (t.second % 60) ++ rest)))) := by
    simp [Instant.clockText, Instant.clockParts, hnano]
  have hparts : t.second / 3600 * 3600 + t.second / 60 % 60 * 60 + t.second % 60 = t.second := by
    omega
  unfold clock?
  rw [htext, numeral?_append (by decide) (show t.second / 3600 < 100 by omega)]
  simp only [Option.bind_eq_bind, Option.bind_some, marks?_append]
  rw [numeral?_append (by decide) (show t.second / 60 % 60 < 100 by omega)]
  simp only [Option.bind_some, marks?_append]
  rw [numeral?_append (by decide) (show t.second % 60 < 100 by omega)]
  simp only [Option.bind_some, hparts]
  exact if_pos ⟨by omega, by omega, by omega⟩

/-- **An HTTP date names the beginning of the second** of the instant it was written for. -/
theorem read?_httpDate (hleap : ¬ t.IsLeap) (hyear : 0 ≤ t.date.year ∧ t.date.year < 10000) :
    read? t.httpDate.toList = some t.toSecond := by
  have htext : t.httpDate.toList = t.weekdayName.toList ++ ([',', ' '] ++
      (Text.padded 2 t.date.day ++ ([' '] ++ ((Instant.monthName t.date).toList ++ ([' '] ++
      (Text.padded 4 t.date.year.toNat ++
        ([' '] ++ (t.clockText ++ ([' ', 'G', 'M', 'T'] ++ []))))))))) := by
    simp [Instant.httpDate, yearText, hyear]
  have hdays : t.date.toDays = t.day := Date.toDays_ofDays t.day
  unfold read?
  rw [htext, date?_append hyear]
  simp only [Option.bind_eq_bind, Option.bind_some, marks?_append, clock?_append hleap, hdays]
  exact Instant.ofReading?_self t.toSecond

example : read? "Thu, 01 Jan 1970 00:00:00 GMT".toList = some .epoch := by decide

end HttpDate

/-! ## Characters -/

/-- The characters of HTTP dates other than digits. -/
def HttpDate.marks : List Char :=
  (Date.weekdayNames ++ Date.monthNames).flatMap String.toList ++
    [',', ' ', ':', '+', '-', 'G', 'M', 'T']

section Characters

variable {p : Char → Prop}

theorem forall_mem_yearText (hdigit : ∀ c, Text.isDigit c = true → p c) (hplus : p '+')
    (hminus : p '-') (year : Int) : ∀ c ∈ yearText year, p c := by
  have hpadded : ∀ n, ∀ c ∈ Text.padded 4 n, p c := fun n c hc =>
    hdigit c ((Text.isNumeral_padded 4 n).digits c hc)
  unfold yearText
  split
  · exact hpadded _
  · refine List.forall_mem_cons.2 ⟨?_, hpadded _⟩
    split
    · exact hminus
    · exact hplus

theorem Instant.forall_mem_clockText (hdigit : ∀ c, Text.isDigit c = true → p c) (hcolon : p ':')
    (t : Instant) : ∀ c ∈ t.clockText, p c := by
  have hpadded : ∀ n, ∀ c ∈ Text.padded 2 n, p c := fun n c hc =>
    hdigit c ((Text.isNumeral_padded 2 n).digits c hc)
  intro c hc
  simp only [Instant.clockText, List.mem_append, List.mem_cons] at hc
  rcases hc with (hc | rfl | hc) | rfl | hc
  · exact hpadded _ c hc
  · exact hcolon
  · exact hpadded _ c hc
  · exact hcolon
  · exact hpadded _ c hc

/-- What holds of the words of a table holds of the word at a place, and of the empty one behind
its end. -/
theorem forall_mem_getD {words : List String} (hwords : ∀ c ∈ words.flatMap String.toList, p c)
    (i : Nat) : ∀ c ∈ (words.getD i "").toList, p c := by
  rw [List.getD_eq_getElem?_getD]
  cases hi : words[i]? with
  | none => exact fun c hc => absurd hc (by simp)
  | some s =>
      exact fun c hc => hwords c (List.mem_flatMap.2 ⟨s, List.mem_of_getElem? hi, hc⟩)

/-- **HTTP dates consist of digits and a few marks.** -/
theorem Instant.forall_mem_httpDate (hdigit : ∀ c, Text.isDigit c = true → p c)
    (hmarks : ∀ c ∈ HttpDate.marks, p c) (t : Instant) : ∀ c ∈ t.httpDate.toList, p c := by
  have hnames : ∀ c ∈ (Date.weekdayNames ++ Date.monthNames).flatMap String.toList, p c :=
    fun c hc => hmarks c (List.mem_append_left _ hc)
  rw [List.flatMap_append, List.forall_mem_append] at hnames
  have hweekday : ∀ c ∈ t.weekdayName.toList, p c := forall_mem_getD hnames.1 _
  have hmonth : ∀ c ∈ (Instant.monthName t.date).toList, p c := forall_mem_getD hnames.2 _
  have hday : ∀ c ∈ Text.padded 2 t.date.day, p c := fun c hc =>
    hdigit c ((Text.isNumeral_padded 2 _).digits c hc)
  have hyear : ∀ c ∈ yearText t.date.year, p c :=
    forall_mem_yearText hdigit (hmarks _ (by decide)) (hmarks _ (by decide)) _
  have hclock : ∀ c ∈ t.clockText, p c := t.forall_mem_clockText hdigit (hmarks _ (by decide))
  have hbetween : ∀ text : String, text.toList ⊆ HttpDate.marks → ∀ c ∈ text.toList, p c :=
    fun text hsub c hc => hmarks c (hsub hc)
  have hcomma : ∀ c ∈ ", ".toList, p c := hbetween ", " (by decide)
  have hblank : ∀ c ∈ " ".toList, p c := hbetween " " (by decide)
  have hzone : ∀ c ∈ " GMT".toList, p c := hbetween " GMT" (by decide)
  simp only [Instant.httpDate, String.toList_append, String.toList_ofList, List.forall_mem_append]
  exact ⟨⟨⟨⟨⟨⟨⟨⟨⟨hweekday, hcomma⟩, hday⟩, hblank⟩, hmonth⟩, hblank⟩, hyear⟩, hblank⟩, hclock⟩,
    hzone⟩

end Characters

end SessionAuth
