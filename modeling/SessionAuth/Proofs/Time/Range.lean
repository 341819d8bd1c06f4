import SessionAuth.Proofs.Time.Elapsed

set_option autoImplicit false

/-! # Where the calendar ends

A span that is added to an instant is added to a count of nanoseconds (`Instant.count_of_add?`),
and a positive one leads off the calendar exactly if the count reaches the end of it
(`Instant.add?_eq_none_iff`). The other end is never met on the way forward.

A span is held as a signed number of milliseconds in 64 bits, and what is finer beside it. From one
end of the calendar to the other it is far less than that, so that the span between two instants
can always be held, whichever comes first, and so can the parts from which it is put together
(`Instant.measured?_eq_since`).

How many whole seconds lie between two instants is found by adding them to the first
(`Instant.WholeSeconds`). Outside of leap seconds it is the difference of the nanoseconds that counts
(`Instant.wholeSeconds_iff`).
-/

namespace SessionAuth

namespace Span

/-- There is room for the span: it has no more milliseconds, of either sign, than the largest signed
number of 64 bits. -/
def Holds (s : Span) : Prop := s.nanos.natAbs ≤ 9223372036854775807 * 1000000

instance (s : Span) : Decidable s.Holds := by
  unfold Holds
  infer_instance

/-- The span, if there is room for it. -/
def held? (s : Span) : Option Span := if s.Holds then some s else none

/-- Two spans together, if there is room for them. -/
def sum? (a b : Span) : Option Span := held? ⟨a.nanos + b.nanos⟩

theorem held?_of_holds {s : Span} (h : s.Holds) : s.held? = some s := if_pos h

end Span

namespace Instant

variable {t t' : Instant} {s : Span}

/-! ## Adding -/

/-- The nanoseconds from the epoch to a reading, those of a leap second being counted as the ones of
the second that it prolongs. -/
def count (t : Instant) : Int := if t.IsLeap then t.nanos - 1000000000 else t.nanos

/-- The count at which the calendar is over. -/
def calendarEnd : Int := 95026237 * 86400 * 1000000000

example : Date.ofDays 95026236 = ⟨262142, 12, 31⟩ := by decide

/-- A shift forward leads off the calendar only past its end. -/
theorem shifted?_eq_none_iff {day second nano shift : Int} (hday : -96465292 ≤ day)
    (hforward : 0 ≤ second * 1000000000 + nano + shift) :
    shifted? day second nano shift = none ↔
      calendarEnd ≤ (day * 86400 + second) * 1000000000 + nano + shift := by
  have hvalid : Valid (day + (second * 1000000000 + nano + shift) / (86400 * 1000000000))
      ((second * 1000000000 + nano + shift) % (86400 * 1000000000) / 1000000000).toNat
      ((second * 1000000000 + nano + shift) % (86400 * 1000000000) % 1000000000).toNat ↔
        (day * 86400 + second) * 1000000000 + nano + shift < calendarEnd := by
    -- the time of day is always one, and the day has not gone back
    unfold Valid calendarEnd
    split <;> omega
  rw [← Int.not_lt, ← hvalid]
  show (if h : _ then some _ else none) = none ↔ _
  simp

theorem ofReading?_eq_some_of_valid {day : Int} {second nano : Nat} (h : Valid day second nano) :
    ∃ t, ofReading? day second nano = some t := by
  unfold ofReading?
  rw [dif_pos h]
  exact ⟨_, rfl⟩

/-- **Adding a positive span adds to the count**, also inside of a leap second. -/
theorem count_of_add? (hs : 0 < s.nanos) (h : t.add? s = some t') :
    t'.count = t.count + s.nanos := by
  unfold count
  by_cases ht : t.IsLeap
  · rw [if_pos ht]
    rcases nanos_of_add?_of_isLeap ht hs h with ⟨hday, hsecond, hnano⟩ | ⟨hnanos, hleap', -⟩
    · have hleap' : t'.IsLeap := by
        unfold IsLeap at *
        omega
      have hstart : t.nanos = (t.day * 86400 + t.second) * 1000000000 + t.nano := rfl
      have hend : t'.nanos = (t'.day * 86400 + t'.second) * 1000000000 + t'.nano := rfl
      rw [if_pos hleap', hend, hstart, hday, hsecond]
      omega
    · rw [if_neg hleap']
      omega
  · obtain ⟨hnanos, hleap'⟩ := nanos_of_add?_of_not_isLeap ht h
    rw [if_neg ht, if_neg hleap', hnanos]

/-- **A positive span leads off the calendar** exactly if the count reaches the end of it. -/
theorem add?_eq_none_iff (hs : 0 < s.nanos) :
    t.add? s = none ↔ calendarEnd ≤ t.count + s.nanos := by
  have hday := t.day_ge
  have hday' := t.day_le
  have hsecond := t.second_lt
  have hnanos : t.nanos = (t.day * 86400 + t.second) * 1000000000 + t.nano := rfl
  by_cases ht : t.IsLeap
  · have hcount : t.count = t.nanos - 1000000000 := if_pos ht
    have hnot : ¬ t.nano < 1000000000 := Nat.not_lt.2 ht
    unfold IsLeap at ht
    rw [add?, if_neg hnot]
    by_cases hstays : s.nanos.natAbs < 1000000000 ∧ t.nano + s.nanos < 2000000000
    · -- the reading stays in its leap second, which the calendar has
      have hminute : t.second % 60 = 59 := by
        have hnano := t.nano_lt
        split at hnano
        · assumption
        · omega
      have hvalid : Valid t.day t.second (t.nano + s.nanos).toNat := by
        refine ⟨hday, hday', hsecond, ?_⟩
        rw [if_pos hminute]
        omega
      obtain ⟨t', ht'⟩ := ofReading?_eq_some_of_valid hvalid
      rw [if_pos hstays, ht', hcount, hnanos]
      unfold calendarEnd
      simp
      omega
    · rw [if_neg hstays, if_pos hs, shifted?_eq_none_iff hday (by omega), hcount, hnanos]
      omega
  · have hcount : t.count = t.nanos := if_neg ht
    unfold IsLeap at ht
    rw [add?, if_pos (Nat.not_le.1 ht), shifted?_eq_none_iff hday (by omega), hcount, hnanos]

/-! ## Measuring -/

/-- The part of a span between two instants that lies between their times of day; a leap second that
lies between these counts. -/
def clockSpan (a b : Instant) : Span :=
  let leap : Int :=
    if b.second < a.second ∧ b.IsLeap then 1
    else if a.second < b.second ∧ a.IsLeap then -1
    else 0
  ⟨((a.second : Int) - b.second + leap) * 1000000000 + ((a.nano : Int) - b.nano)⟩

/-- The span from `b` to `a` as it is worked out, if there is room for it at each step: from day to
day, between the times of day, and both together. -/
def measured? (a b : Instant) : Option Span := do
  let days ← (Span.ofDays (a.day - b.day)).held?
  let clock ← (clockSpan a b).held?
  days.sum? clock

theorem nano_lt_two_seconds (t : Instant) : t.nano < 2000000000 := by
  have hnano := t.nano_lt
  split at hnano <;> omega

/-- Times of day are less than two days apart. -/
theorem natAbs_clockSpan_lt (a b : Instant) :
    (clockSpan a b).nanos.natAbs < 172800 * 1000000000 := by
  have ha := a.second_lt
  have hb := b.second_lt
  have ha' := a.nano_lt_two_seconds
  have hb' := b.nano_lt_two_seconds
  unfold clockSpan
  dsimp only
  split
  · omega
  · split <;> omega

theorem since_eq_clockSpan (a b : Instant) :
    a.since b = ⟨(Span.ofDays (a.day - b.day)).nanos + (clockSpan a b).nanos⟩ := by
  unfold since clockSpan Span.ofDays Span.ofSeconds IsLeap
  dsimp only
  congr 1
  omega

/-- **There is always room for the span between two instants**, whichever is the later one. -/
theorem measured?_eq_since (a b : Instant) : a.measured? b = some (a.since b) := by
  have ha := a.day_ge
  have ha' := a.day_le
  have hb := b.day_ge
  have hb' := b.day_le
  have hclock := natAbs_clockSpan_lt a b
  have hnanos : (Span.ofDays (a.day - b.day)).nanos = (a.day - b.day) * 86400 * 1000000000 := rfl
  have hdays : (Span.ofDays (a.day - b.day)).Holds := by
    unfold Span.Holds
    omega
  have hclock' : (clockSpan a b).Holds := by
    unfold Span.Holds
    omega
  have hsum : Span.Holds ⟨(Span.ofDays (a.day - b.day)).nanos + (clockSpan a b).nanos⟩ := by
    unfold Span.Holds
    dsimp only
    omega
  unfold measured? Span.sum?
  rw [Span.held?_of_holds hdays, Span.held?_of_holds hclock', since_eq_clockSpan]
  exact Span.held?_of_holds hsum

/-! ## Whole seconds -/

/-- So many whole seconds lie between two instants: with them the second one is not passed, and with
one more it would be, if the calendar goes on so long. -/
structure WholeSeconds (start finish : Instant) (n : Nat) : Prop where
  reached : ∃ t, start.add? (.ofSeconds n) = some t ∧ t ≤ finish
  passed : ∀ t, start.add? (.ofSeconds (n + 1)) = some t → finish < t

section WholeSeconds

variable {start finish : Instant} {n : Nat}

/-- What an instant of the calendar does not pass is on the calendar. -/
theorem exists_add?_of_le (hstart : ¬ start.IsLeap) (hfinish : ¬ finish.IsLeap)
    (h : start.nanos + n * 1000000000 ≤ finish.nanos) :
    ∃ t, start.add? (.ofSeconds n) = some t := by
  have hday := start.day_ge
  have hday' := finish.day_le
  have hsecond := finish.second_lt
  have hnanos : start.nanos = (start.day * 86400 + start.second) * 1000000000 + start.nano := rfl
  have hnanos' : finish.nanos = (finish.day * 86400 + finish.second) * 1000000000 + finish.nano :=
    rfl
  have hspan : (Span.ofSeconds n).nanos = n * 1000000000 := rfl
  unfold IsLeap at hstart hfinish
  rw [add?, if_pos (Nat.not_le.1 hstart)]
  refine Option.ne_none_iff_exists'.1 fun hnone => ?_
  rw [shifted?_eq_none_iff hday (by omega)] at hnone
  unfold calendarEnd at hnone
  omega

/-- **Whole seconds are counted in nanoseconds**, outside of leap seconds. -/
theorem wholeSeconds_iff (hstart : ¬ start.IsLeap) (hfinish : ¬ finish.IsLeap) :
    WholeSeconds start finish n ↔
      start.nanos + n * 1000000000 ≤ finish.nanos ∧
        finish.nanos < start.nanos + (n + 1) * 1000000000 := by
  have hspan : ∀ n : Nat, (Span.ofSeconds n).nanos = n * 1000000000 := fun n => rfl
  have hadd : ∀ {n : Nat} {t}, start.add? (.ofSeconds n) = some t →
      t.nanos = start.nanos + n * 1000000000 ∧ ¬ t.IsLeap := fun {n t} h =>
    hspan n ▸ nanos_of_add?_of_not_isLeap hstart h
  constructor
  · rintro ⟨⟨t, ht, hle⟩, hpassed⟩
    obtain ⟨hnanos, hleap⟩ := hadd ht
    have hreached : start.nanos + n * 1000000000 ≤ finish.nanos :=
      hnanos ▸ (le_iff_nanos hleap hfinish).1 hle
    refine ⟨hreached, Int.not_le.1 fun hmore => ?_⟩
    -- one second more would still be on the calendar, and not past the end
    obtain ⟨t', ht'⟩ := exists_add?_of_le (n := n + 1) hstart hfinish (by push_cast; exact hmore)
    obtain ⟨hnanos', hleap'⟩ := hadd ht'
    have hlt := (lt_iff_nanos hfinish hleap').1 (hpassed t' ht')
    push_cast at hnanos'
    omega
  · rintro ⟨hreached, hpassed⟩
    obtain ⟨t, ht⟩ := exists_add?_of_le hstart hfinish hreached
    obtain ⟨hnanos, hleap⟩ := hadd ht
    refine ⟨⟨t, ht, (le_iff_nanos hleap hfinish).2 (hnanos ▸ hreached)⟩, fun t' ht' => ?_⟩
    obtain ⟨hnanos', hleap'⟩ := hadd (n := n + 1) ht'
    rw [lt_iff_nanos hfinish hleap', hnanos']
    push_cast
    exact hpassed

end WholeSeconds

end Instant

end SessionAuth
