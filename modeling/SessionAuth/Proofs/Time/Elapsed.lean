import SessionAuth.Time.Instant

set_option autoImplicit false

/-! # How much time has passed

A span that is added to an instant can be measured again, as the span since that instant. Outside
of leap seconds the two agree. An instant inside of a leap second is counted as an ordinary reading
when a span leads out of it, so that the span that is measured may fall short of the one that was
added, by one second and no more (`Instant.seconds_since_of_add?`). In any case an instant that
lies a positive span later lies later (`Instant.lt_of_add?`).
-/

namespace SessionAuth

/-- No whole second fits into a span that is not positive. -/
theorem Span.seconds_nonpos {s : Span} (h : s.nanos ≤ 0) : s.seconds ≤ 0 := by
  have hneg : s.nanos = -(-s.nanos) := (Int.neg_neg _).symm
  rw [Span.seconds, hneg, Int.neg_tdiv, Int.neg_nonpos_iff]
  exact Int.tdiv_nonneg (by omega) (by decide)

namespace Instant

/-- The reading lies inside of a leap second. -/
def IsLeap (t : Instant) : Prop := 1000000000 ≤ t.nano

instance (t : Instant) : Decidable t.IsLeap := by
  unfold IsLeap
  infer_instance

/-- The nanoseconds of a reading, all counted from the epoch; those of a leap second are counted
once more by the second after it. -/
def nanos (t : Instant) : Int := t.unix * 1000000000 + t.nano

/-- Ordinary readings are ordered as their nanoseconds are. -/
theorem le_iff_nanos {a b : Instant} (ha : ¬ a.IsLeap) (hb : ¬ b.IsLeap) :
    a ≤ b ↔ a.nanos ≤ b.nanos := by
  show a.rank ≤ b.rank ↔ _
  have hrank : a.rank = a.unix * 2000000000 + a.nano := rfl
  have hrank' : b.rank = b.unix * 2000000000 + b.nano := rfl
  have hnanos : a.nanos = a.unix * 1000000000 + a.nano := rfl
  have hnanos' : b.nanos = b.unix * 1000000000 + b.nano := rfl
  unfold IsLeap at ha hb
  omega

theorem lt_iff_nanos {a b : Instant} (ha : ¬ a.IsLeap) (hb : ¬ b.IsLeap) :
    a < b ↔ a.nanos < b.nanos := by
  have hle : b ≤ a ↔ b.nanos ≤ a.nanos := le_iff_nanos hb ha
  have hnot : a < b ↔ ¬ b ≤ a := Int.not_le.symm
  rw [hnot, hle, Int.not_le]

theorem of_ofReading?_eq_some {day : Int} {second nano : Nat} {t : Instant}
    (h : ofReading? day second nano = some t) :
    t.day = day ∧ t.second = second ∧ t.nano = nano := by
  unfold ofReading? at h
  split at h
  · cases h
    exact ⟨rfl, rfl, rfl⟩
  · cases h

/-- A shift moves the nanoseconds by as many as it says, and leads to an ordinary reading. -/
theorem of_shifted?_eq_some {day second nano shift : Int} {t : Instant}
    (h : shifted? day second nano shift = some t) :
    t.nanos = (day * 86400 + second) * 1000000000 + nano + shift ∧ t.nano < 1000000000 := by
  obtain ⟨hday, hsecond, hnano⟩ := of_ofReading?_eq_some h
  have hnanos : t.nanos = (t.day * 86400 + t.second) * 1000000000 + t.nano := rfl
  omega

/-! ## Adding a positive span -/

variable {t t' : Instant} {s : Span}

/-- From an ordinary reading a span leads to an ordinary reading. -/
theorem nanos_of_add?_of_not_isLeap (ht : ¬ t.IsLeap) (h : t.add? s = some t') :
    t'.nanos = t.nanos + s.nanos ∧ ¬ t'.IsLeap := by
  unfold IsLeap at *
  have hordinary : t.nano < 1000000000 := by omega
  rw [add?, if_pos hordinary] at h
  obtain ⟨hnanos, hnano⟩ := of_shifted?_eq_some h
  have hstart : t.nanos = (t.day * 86400 + t.second) * 1000000000 + t.nano := rfl
  omega

/-- From inside of a leap second a positive span leads to a later reading inside of it, or out of
it, and then the leap second is counted once only. -/
theorem nanos_of_add?_of_isLeap (ht : t.IsLeap) (hs : 0 < s.nanos) (h : t.add? s = some t') :
    (t'.day = t.day ∧ t'.second = t.second ∧ (t'.nano : Int) = t.nano + s.nanos) ∨
      t'.nanos + 1000000000 = t.nanos + s.nanos ∧ ¬ t'.IsLeap ∧
        2000000000 ≤ t.nano + s.nanos := by
  unfold IsLeap at *
  have hnot : ¬ t.nano < 1000000000 := by omega
  rw [add?, if_neg hnot] at h
  by_cases hstays : s.nanos.natAbs < 1000000000 ∧ t.nano + s.nanos < 2000000000
  · rw [if_pos hstays] at h
    obtain ⟨hday, hsecond, hnano⟩ := of_ofReading?_eq_some h
    exact Or.inl ⟨hday, hsecond, by omega⟩
  · rw [if_neg hstays, if_pos hs] at h
    obtain ⟨hnanos, hnano⟩ := of_shifted?_eq_some h
    have hstart : t.nanos = (t.day * 86400 + t.second) * 1000000000 + t.nano := rfl
    exact Or.inr ⟨by omega, by omega, by omega⟩

/-- **What lies a positive span later lies later.** -/
theorem lt_of_add? (hs : 0 < s.nanos) (h : t.add? s = some t') : t < t' := by
  rw [lt_iff_rank]
  have hnano := t.nano_lt
  have hrank : t.rank = (t.day * 86400 + t.second) * 2000000000 + t.nano := rfl
  have hrank' : t'.rank = (t'.day * 86400 + t'.second) * 2000000000 + t'.nano := rfl
  have hnanos : t.nanos = (t.day * 86400 + t.second) * 1000000000 + t.nano := rfl
  have hnanos' : t'.nanos = (t'.day * 86400 + t'.second) * 1000000000 + t'.nano := rfl
  by_cases ht : t.IsLeap
  · rcases nanos_of_add?_of_isLeap ht hs h with ⟨hday, hsecond, hlater⟩ | ⟨hshift, hleap', hout⟩
    · rw [hrank, hrank', hday, hsecond]
      omega
    · unfold IsLeap at hleap'
      split at hnano <;> omega
  · obtain ⟨hshift, hleap'⟩ := nanos_of_add?_of_not_isLeap ht h
    unfold IsLeap at ht hleap'
    omega

/-! ## Measuring it again -/

/-- What a difference of two readings is short of, or has too much, for a leap second. -/
theorem nanos_since (a b : Instant) :
    (a.since b).nanos = a.nanos - b.nanos +
      (if b.second < a.second ∧ b.IsLeap then 1000000000
        else if a.second < b.second ∧ a.IsLeap then -1000000000
        else 0) := by
  have ha : a.nanos = (a.day * 86400 + a.second) * 1000000000 + a.nano := rfl
  have hb : b.nanos = (b.day * 86400 + b.second) * 1000000000 + b.nano := rfl
  unfold since IsLeap
  dsimp only
  split
  · omega
  · split <;> omega

/-- **The whole seconds of a positive span are measured again**, or one less if the span was added
inside of a leap second. -/
theorem seconds_since_of_add? (hs : 0 < s.nanos) (h : t.add? s = some t') :
    max 0 (t'.since t).seconds = s.seconds ∨
      t.IsLeap ∧ max 0 (t'.since t).seconds + 1 = s.seconds := by
  have hseconds : s.seconds = s.nanos / 1000000000 := Int.tdiv_eq_ediv_of_nonneg (by omega)
  have hsame : (t'.since t).nanos = s.nanos → max 0 (t'.since t).seconds = s.seconds := by
    intro heq
    rw [Span.seconds, heq, ← Span.seconds]
    omega
  by_cases ht : t.IsLeap
  · rcases nanos_of_add?_of_isLeap ht hs h with ⟨hday, hsecond, hlater⟩ | ⟨hshift, hleap', hout⟩
    · refine Or.inl (hsame ?_)
      have hnanos : t.nanos = (t.day * 86400 + t.second) * 1000000000 + t.nano := rfl
      have hnanos' : t'.nanos = (t'.day * 86400 + t'.second) * 1000000000 + t'.nano := rfl
      rw [nanos_since, hnanos', hnanos, hday, hsecond]
      simp only [Nat.lt_irrefl, false_and, if_false]
      omega
    · by_cases hafter : t.second < t'.second
      · -- the leap second lies between the two times of day, and so it counts
        refine Or.inl (hsame ?_)
        rw [nanos_since, if_pos ⟨hafter, ht⟩]
        omega
      · have hshort : (t'.since t).nanos = s.nanos - 1000000000 := by
          rw [nanos_since, if_neg fun hc => hafter hc.1, if_neg fun hc => hleap' hc.2]
          omega
        by_cases hlong : 1000000000 ≤ s.nanos
        · have hfewer : (t'.since t).seconds = (s.nanos - 1000000000) / 1000000000 := by
            rw [Span.seconds, hshort]
            exact Int.tdiv_eq_ediv_of_nonneg (by omega)
          exact Or.inr ⟨ht, by omega⟩
        · have hnone : (t'.since t).seconds ≤ 0 := Span.seconds_nonpos (by omega)
          exact Or.inl (by omega)
  · obtain ⟨hshift, hleap'⟩ := nanos_of_add?_of_not_isLeap ht h
    refine Or.inl (hsame ?_)
    rw [nanos_since, if_neg fun hc => ht hc.2, if_neg fun hc => hleap' hc.2]
    omega

end Instant

end SessionAuth
