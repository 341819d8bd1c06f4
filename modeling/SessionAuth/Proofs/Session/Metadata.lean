import SessionAuth.Proofs.Text.Trim
import SessionAuth.Session.Metadata

set_option autoImplicit false

/-! # What is kept of client metadata

Of a value that is not blank the beginning of its trimmed form is kept, as much of it as the column
has room for (`Metadata.clean_eq_some_iff`); of any other value nothing is. So what is stored is
never empty and never longer than its column (`Metadata.KeptOf`).

Metadata is in *normal form* if normalizing it changes nothing, which is to say that its values are
not empty, have no blank at either end and fit their columns (`Metadata.normalized_eq_self_iff`).
What comes out of normalizing is not always of this form: values are trimmed before they are cut and
not afterwards, so one that is cut right behind a blank keeps it (`Metadata.normalized_stores`).
Normalizing a second time takes these blanks away, and then nothing is left to do.
-/

namespace SessionAuth.Metadata

variable {width : Nat} {value : Option String} {raw text : String}

/-- The text begins the trimmed value, is not empty, and has at most `width` characters. -/
structure KeptOf (width : Nat) (value : Option String) (text : String) : Prop where
  pos : 1 ≤ text.length
  le : text.length ≤ width
  begins : ∃ raw, value = some raw ∧ text.toList <+: Text.trim raw.toList

theorem clean_eq_some_iff :
    clean width value = some text ↔
      ∃ raw, value = some raw ∧ Text.trim raw.toList ≠ [] ∧
        text.toList = (Text.trim raw.toList).take width := by
  cases value with
  | none => simp [clean]
  | some raw =>
      by_cases hblank : Text.trim raw.toList = []
      · simp [clean, hblank]
      · have hempty : (Text.trim raw.toList).isEmpty = false := List.isEmpty_eq_false_iff.2 hblank
        simp only [clean, hempty, Option.some.injEq, exists_eq_left', hblank, ne_eq,
          not_false_eq_true, true_and, Bool.false_eq_true, if_false]
        rw [← String.toList_inj, String.toList_ofList, eq_comm]

/-- Of a value that is not blank the trimmed form is cut at the width of its column. -/
theorem clean_some (hne : Text.trim raw.toList ≠ []) :
    clean width (some raw) = some (String.ofList ((Text.trim raw.toList).take width)) :=
  clean_eq_some_iff.2 ⟨raw, rfl, hne, String.toList_ofList⟩

/-- **What is kept fits its column** and is not empty. -/
theorem keptOf_of_clean (hwidth : 0 < width) (h : clean width value = some text) :
    KeptOf width value text := by
  obtain ⟨raw, hraw, hne, htext⟩ := clean_eq_some_iff.1 h
  have hlength : text.length = min width (Text.trim raw.toList).length := by
    rw [← String.length_toList, htext, List.length_take]
  have hpos : 0 < (Text.trim raw.toList).length := List.length_pos_iff.2 hne
  refine ⟨by omega, by omega, raw, hraw, ?_⟩
  rw [htext]
  exact List.take_prefix width _

/-- **Nothing is kept of a blank value**, and only of such a one. -/
theorem clean_eq_none_iff :
    clean width value = none ↔ ∀ raw ∈ value, ∀ c ∈ raw.toList, Text.isBlank c = true := by
  cases value with
  | none => simp [clean]
  | some raw => simp [clean, ← Text.trim_eq_nil_iff]

/-- What is kept does not begin with a blank. -/
theorem isBlank_of_mem_head?_clean (h : clean width value = some text) :
    ∀ c ∈ text.toList.head?, Text.isBlank c = false := by
  obtain ⟨raw, -, -, htext⟩ := clean_eq_some_iff.1 h
  intro c hc
  -- the first character of what is kept is that of the trimmed value
  obtain ⟨rest, hrest⟩ : text.toList <+: Text.trim raw.toList := htext ▸ List.take_prefix width _
  refine (Text.trim_eq_self_iff.1 (Text.trim_trim raw.toList)).1 c ?_
  rw [← hrest, List.head?_append, hc]
  rfl

/-! ## Where a value is cut -/

/-- The last character of the trimmed value for which the column has room is a blank. -/
def CutAtBlank (width : Nat) (value : Option String) : Prop :=
  ∃ raw ∈ value, ∃ c ∈ (Text.trim raw.toList)[width - 1]?, Text.isBlank c = true

/-- **What is kept ends with a blank exactly if the value is cut behind one.** -/
theorem clean_ends_iff (hwidth : 0 < width) :
    (∀ text ∈ clean width value, ∀ c ∈ text.toList.getLast?, Text.isBlank c = false) ↔
      ¬ CutAtBlank width value := by
  cases value with
  | none => simp [clean, CutAtBlank]
  | some raw =>
      by_cases hblank : Text.trim raw.toList = []
      · simp [clean, CutAtBlank, hblank]
      · have hlast : ((Text.trim raw.toList).take width).getLast? =
            (Text.trim raw.toList)[width - 1]?.or (Text.trim raw.toList).getLast? := by
          rw [List.getLast?_take, if_neg (Nat.pos_iff_ne_zero.1 hwidth)]
        have htrimmed := (Text.trim_eq_self_iff.1 (Text.trim_trim raw.toList)).2
        simp only [clean_some hblank, Option.mem_some_iff, forall_eq', String.toList_ofList, hlast,
          CutAtBlank, exists_eq_left']
        cases hcut : (Text.trim raw.toList)[width - 1]? with
        | none => simpa using htrimmed
        | some c => simp

/-! ## Normal forms -/

/-- The text fits the column, is not empty and has no blank at either end. -/
structure NormalText (width : Nat) (text : String) : Prop where
  ne : text ≠ ""
  le : text.length ≤ width
  starts : ∀ c ∈ text.toList.head?, Text.isBlank c = false
  ends : ∀ c ∈ text.toList.getLast?, Text.isBlank c = false

/-- All values are in normal form. -/
structure Normal (m : Metadata) : Prop where
  userAgent : ∀ text ∈ m.userAgent, NormalText 512 text
  ipAddress : ∀ text ∈ m.ipAddress, NormalText 64 text

/-- A value for which the column has room is only trimmed. -/
theorem clean_of_length_le (hne : Text.trim raw.toList ≠ []) (hle : raw.length ≤ width) :
    clean width (some raw) = some (Text.trimmed raw) := by
  have hlength : (Text.trim raw.toList).length ≤ width := by
    have htrim := Text.length_trim_le raw.toList
    rw [String.length_toList] at htrim
    exact htrim.trans hle
  rw [clean_some hne, List.take_of_length_le hlength, Text.trimmed]

/-- So it is brought into normal form. -/
theorem normalText_trimmed (hne : Text.trim raw.toList ≠ []) (hle : raw.length ≤ width) :
    NormalText width (Text.trimmed raw) := by
  obtain ⟨hstarts, hends⟩ := Text.trim_eq_self_iff.1 (Text.trim_trim raw.toList)
  have hlength : (Text.trimmed raw).length ≤ raw.length := by
    rw [← String.length_toList, ← String.length_toList, Text.toList_trimmed]
    exact Text.length_trim_le raw.toList
  refine ⟨fun hempty => hne ?_, hlength.trans hle, ?_, ?_⟩
  · rw [← Text.toList_trimmed, hempty]
    rfl
  · rwa [Text.toList_trimmed]
  · rwa [Text.toList_trimmed]

/-- **A value stays as it is** exactly if it is in normal form. -/
theorem clean_eq_self_iff : clean width value = value ↔ ∀ text ∈ value, NormalText width text := by
  cases value with
  | none => simp [clean]
  | some raw =>
      simp only [Option.mem_some_iff, forall_eq']
      constructor
      · intro h
        obtain ⟨raw', hraw, hne, htext⟩ := clean_eq_some_iff.1 h
        cases hraw
        have hle : raw.length ≤ width := by
          rw [← String.length_toList, htext]
          exact List.length_take_le width _
        rw [clean_of_length_le hne hle, Option.some.injEq] at h
        rw [← h]
        exact normalText_trimmed hne hle
      · intro h
        have htrim : Text.trim raw.toList = raw.toList := Text.trim_eq_self_iff.2 ⟨h.starts, h.ends⟩
        have hne : Text.trim raw.toList ≠ [] := by
          rw [htrim]
          exact fun hempty => h.ne (String.toList_eq_nil_iff.1 hempty)
        rw [clean_of_length_le hne h.le, Text.trimmed, htrim, String.ofList_toList]

/-- A value that is kept still has something to keep. -/
theorem trim_ne_nil_of_clean (hwidth : 0 < width) (h : clean width value = some text) :
    Text.trim text.toList ≠ [] := by
  have hpos := (keptOf_of_clean hwidth h).pos
  cases hchars : text.toList with
  | nil =>
      rw [← String.length_toList, hchars] at hpos
      cases hpos
  | cons c rest =>
      have hc : Text.isBlank c = false := isBlank_of_mem_head?_clean h c (by simp [hchars])
      intro hnil
      have hblank : Text.isBlank c = true := Text.trim_eq_nil_iff.1 hnil c List.mem_cons_self
      rw [hc] at hblank
      cases hblank

/-- **Cleaning a second time trims** what was kept the first time. -/
theorem clean_clean (hwidth : 0 < width) (value : Option String) :
    clean width (clean width value) = (clean width value).map Text.trimmed := by
  cases h : clean width value with
  | none => rfl
  | some text =>
      exact clean_of_length_le (trim_ne_nil_of_clean hwidth h) (keptOf_of_clean hwidth h).le

/-- What has been cleaned twice is in normal form. -/
theorem normalText_of_clean_clean (hwidth : 0 < width) :
    ∀ text ∈ clean width (clean width value), NormalText width text := by
  intro text htext
  rw [clean_clean hwidth, Option.mem_def, Option.map_eq_some_iff] at htext
  obtain ⟨once, honce, rfl⟩ := htext
  exact normalText_trimmed (trim_ne_nil_of_clean hwidth honce) (keptOf_of_clean hwidth honce).le

/-- **Normal forms** are the metadata that normalizing leaves as they are. -/
theorem normalized_eq_self_iff (m : Metadata) : m.normalized = m ↔ m.Normal := by
  constructor
  · intro h
    have huserAgent : clean maxUserAgent m.userAgent = m.userAgent :=
      congrArg Metadata.userAgent h
    have hipAddress : clean maxIpAddress m.ipAddress = m.ipAddress :=
      congrArg Metadata.ipAddress h
    exact ⟨clean_eq_self_iff.1 huserAgent, clean_eq_self_iff.1 hipAddress⟩
  · intro h
    exact congrArg₂ Metadata.mk (clean_eq_self_iff.2 h.userAgent) (clean_eq_self_iff.2 h.ipAddress)

/-! ## What normalizing makes of metadata -/

/-- What is stored of a value: nothing exactly if it is absent or blank, and otherwise a beginning of
the trimmed value which ends with a blank exactly if it has been cut behind one. -/
structure Stores (width : Nat) (value stored : Option String) : Prop where
  none_iff : stored = none ↔ ∀ raw ∈ value, ∀ c ∈ raw.toList, Text.isBlank c = true
  kept : ∀ text ∈ stored, KeptOf width value text
  starts : ∀ text ∈ stored, ∀ c ∈ text.toList.head?, Text.isBlank c = false
  ends_iff : (∀ text ∈ stored, ∀ c ∈ text.toList.getLast?, Text.isBlank c = false) ↔
    ¬ CutAtBlank width value

theorem stores_clean (hwidth : 0 < width) (value : Option String) :
    Stores width value (clean width value) where
  none_iff := clean_eq_none_iff
  kept := fun _ h => keptOf_of_clean hwidth h
  starts := fun _ h => isBlank_of_mem_head?_clean h
  ends_iff := clean_ends_iff hwidth

/-- What is stored is in normal form unless it ends with a blank. -/
theorem Stores.normalText_iff {stored : Option String} (h : Stores width value stored) :
    (∀ text ∈ stored, NormalText width text) ↔ ¬ CutAtBlank width value := by
  rw [← h.ends_iff]
  constructor
  · intro hnormal text htext
    exact (hnormal text htext).ends
  · intro hends text htext
    have hkept := h.kept text htext
    refine ⟨fun hempty => ?_, hkept.le, h.starts text htext, hends text htext⟩
    have hpos := hkept.pos
    rw [hempty] at hpos
    cases hpos

/-- **What normalizing makes of metadata.** Each value is stored as `Stores` says. The outcome is in
normal form, and normalizing it again changes nothing, exactly if neither value is cut right behind
a blank. Normalizing a second time trims the values, and with that they are in normal form. -/
theorem normalized_stores (m : Metadata) :
    Stores 512 m.userAgent m.normalized.userAgent ∧
      Stores 64 m.ipAddress m.normalized.ipAddress ∧
      (m.normalized.Normal ↔ ¬ CutAtBlank 512 m.userAgent ∧ ¬ CutAtBlank 64 m.ipAddress) ∧
      (m.normalized.normalized = m.normalized ↔
        ¬ CutAtBlank 512 m.userAgent ∧ ¬ CutAtBlank 64 m.ipAddress) ∧
      m.normalized.normalized =
        ⟨m.normalized.userAgent.map Text.trimmed, m.normalized.ipAddress.map Text.trimmed⟩ ∧
      m.normalized.normalized.Normal := by
  have huserAgent : Stores 512 m.userAgent m.normalized.userAgent := stores_clean (by decide) _
  have hipAddress : Stores 64 m.ipAddress m.normalized.ipAddress := stores_clean (by decide) _
  have hnormal : m.normalized.Normal ↔
      ¬ CutAtBlank 512 m.userAgent ∧ ¬ CutAtBlank 64 m.ipAddress := by
    rw [← huserAgent.normalText_iff, ← hipAddress.normalText_iff]
    exact ⟨fun h => ⟨h.userAgent, h.ipAddress⟩, fun h => ⟨h.1, h.2⟩⟩
  refine ⟨huserAgent, hipAddress, hnormal, ?_, ?_, ?_⟩
  · rw [normalized_eq_self_iff, hnormal]
  · exact congrArg₂ Metadata.mk (clean_clean (by decide) _) (clean_clean (by decide) _)
  · exact ⟨normalText_of_clean_clean (by decide), normalText_of_clean_clean (by decide)⟩

/-- Sixty-three letters, a blank, and one letter more, for which the column has no room. -/
def crowded : Metadata where
  ipAddress := some (String.ofList (List.replicate 63 'a' ++ [' ', 'b']))

/-- What is stored of such an address ends with a blank, which is gone if it is normalized again. -/
theorem crowded_not_normal :
    crowded.normalized.ipAddress = some (String.ofList (List.replicate 63 'a' ++ [' '])) ∧
      ¬ crowded.normalized.Normal ∧
      crowded.normalized.normalized.ipAddress = some (String.ofList (List.replicate 63 'a')) ∧
      crowded.normalized.normalized ≠ crowded.normalized := by
  have honce : crowded.normalized.ipAddress =
      some (String.ofList (List.replicate 63 'a' ++ [' '])) := by decide +kernel
  have hnot : ¬ crowded.normalized.Normal := fun h => by
    have hends := (h.ipAddress _ honce).ends ' ' (by decide)
    revert hends
    decide
  refine ⟨honce, hnot, by decide +kernel, fun h => hnot ?_⟩
  exact (normalized_eq_self_iff _).1 h

end SessionAuth.Metadata
