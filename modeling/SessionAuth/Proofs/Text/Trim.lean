import Mathlib.Data.List.TakeWhile
import SessionAuth.Text.Blank

set_option autoImplicit false

/-! # What trimming leaves alone

A text is left as it is by trimming exactly if it neither begins nor ends with a blank
(`Text.trim_eq_self_iff`); a text that has been trimmed is such a text (`Text.trim_trim`). Blanks
around a text make no difference to what is left of it (`Text.trim_append_append`).
-/

namespace SessionAuth.Text

theorem trimStart_eq_self_iff {cs : List Char} :
    trimStart cs = cs ↔ ∀ c ∈ cs.head?, isBlank c = false := by
  cases cs with
  | nil => simp [trimStart]
  | cons c cs => simp [trimStart, List.dropWhile_eq_self_iff]

theorem trimEnd_eq_self_iff {cs : List Char} :
    trimEnd cs = cs ↔ ∀ c ∈ cs.getLast?, isBlank c = false := by
  rw [← List.head?_reverse, ← trimStart_eq_self_iff, trimEnd, List.reverse_eq_iff]
  rfl

theorem trimStart_suffix (cs : List Char) : trimStart cs <:+ cs := List.dropWhile_suffix _

theorem trimEnd_prefix (cs : List Char) : trimEnd cs <+: cs := by
  rw [← List.reverse_suffix, trimEnd, List.reverse_reverse]
  exact List.dropWhile_suffix _

/-- Trimming leaves nothing that was not there. -/
theorem trim_subset (cs : List Char) : trim cs ⊆ cs := by
  have hend : trim cs <+: trimStart cs := trimEnd_prefix _
  intro c hc
  exact (trimStart_suffix cs).subset (hend.subset hc)

/-- **A text is its own trimmed form** if neither of its ends is a blank. -/
theorem trim_eq_self_iff {cs : List Char} :
    trim cs = cs ↔
      (∀ c ∈ cs.head?, isBlank c = false) ∧ ∀ c ∈ cs.getLast?, isBlank c = false := by
  rw [← trimStart_eq_self_iff, ← trimEnd_eq_self_iff]
  constructor
  · intro h
    -- the trimmed text is a part of the text without the blanks in front, so nothing was cut
    have hle : cs.length ≤ (trimStart cs).length := by
      have hprefix : trim cs <+: trimStart cs := trimEnd_prefix _
      rw [h] at hprefix
      exact hprefix.length_le
    have hstart : trimStart cs = cs := (trimStart_suffix cs).eq_of_length_le hle
    refine ⟨hstart, ?_⟩
    rw [trim, hstart] at h
    exact h
  · rintro ⟨hstart, hend⟩
    rw [trim, hstart, hend]

/-- A text without blanks is its own trimmed form. -/
theorem trim_eq_self_of_forall {cs : List Char} (h : ∀ c ∈ cs, isBlank c = false) :
    trim cs = cs := by
  refine trim_eq_self_iff.2 ⟨fun c hc => h c ?_, fun c hc => h c ?_⟩
  · exact List.mem_of_mem_head? hc
  · exact List.mem_of_mem_getLast? hc

/-- Two trimmed texts around a mark that is no blank make a trimmed text. -/
theorem trim_append_cons {before after : List Char} {c : Char} (hbefore : trim before = before)
    (hafter : trim after = after) (hc : isBlank c = false) :
    trim (before ++ c :: after) = before ++ c :: after := by
  rw [trim_eq_self_iff] at hbefore hafter ⊢
  constructor
  · cases before with
    | nil => simpa using hc
    | cons b before => simpa using hbefore.1
  · cases after with
    | nil => simpa using hc
    | cons a after => simpa using hafter.2

theorem isBlank_of_mem_head?_trimStart (cs : List Char) :
    ∀ c ∈ (trimStart cs).head?, isBlank c = false := by
  intro c hc
  have hnot := List.head?_dropWhile_not isBlank cs
  rw [show (cs.dropWhile isBlank).head? = some c from hc] at hnot
  exact hnot

/-- **Trimming twice is trimming once.** -/
theorem trim_trim (cs : List Char) : trim (trim cs) = trim cs := by
  rw [trim_eq_self_iff]
  constructor
  · intro c hc
    -- what is cut off at the end leaves the first character in its place
    obtain ⟨rest, hrest⟩ : trim cs <+: trimStart cs := trimEnd_prefix _
    refine isBlank_of_mem_head?_trimStart cs c ?_
    rw [← hrest, List.head?_append, hc]
    rfl
  · intro c hc
    refine isBlank_of_mem_head?_trimStart (trimStart cs).reverse c ?_
    rwa [← List.getLast?_reverse]

/-- Trimming leaves nothing of a text exactly if there is nothing but blanks in it. -/
theorem trim_eq_nil_iff {cs : List Char} : trim cs = [] ↔ ∀ c ∈ cs, isBlank c = true := by
  constructor
  · intro h
    rw [trim, trimEnd, List.reverse_eq_nil_iff, List.dropWhile_eq_nil_iff] at h
    -- without the blanks in front there is nothing left, or else it would begin with no blank
    have hstart : trimStart cs = [] := by
      cases hrest : trimStart cs with
      | nil => rfl
      | cons c rest =>
        have hc : isBlank c = false := isBlank_of_mem_head?_trimStart cs c (by simp [hrest])
        have hblank : isBlank c = true := h c (by simp [hrest])
        rw [hc] at hblank
        cases hblank
    exact List.dropWhile_eq_nil_iff.1 hstart
  · intro h
    rw [trim, trimStart, List.dropWhile_eq_nil_iff.2 h]
    rfl

theorem length_trim_le (cs : List Char) : (trim cs).length ≤ cs.length := by
  have hend : trim cs <+: trimStart cs := trimEnd_prefix _
  exact hend.length_le.trans (trimStart_suffix cs).length_le

/-! ## Blanks around a text -/

section Around

variable {front back cs before after : List Char} {c : Char}

theorem trimStart_append_of_blank (h : ∀ c ∈ front, isBlank c = true) (cs : List Char) :
    trimStart (front ++ cs) = trimStart cs := List.dropWhile_append_of_pos h

theorem trimEnd_append_of_blank (h : ∀ c ∈ back, isBlank c = true) (cs : List Char) :
    trimEnd (cs ++ back) = trimEnd cs := by
  rw [trimEnd, List.reverse_append]
  exact congrArg List.reverse
    (trimStart_append_of_blank (fun c hc => h c (List.mem_reverse.1 hc)) cs.reverse)

/-- **Blanks around a text do not count** when it is trimmed. -/
theorem trim_append_append (hfront : ∀ c ∈ front, isBlank c = true)
    (hback : ∀ c ∈ back, isBlank c = true) (cs : List Char) :
    trim (front ++ cs ++ back) = trim cs := by
  rw [trim, List.append_assoc, trimStart_append_of_blank hfront]
  unfold trimStart
  rw [List.dropWhile_append]
  split
  · next hblank =>
    -- there is nothing but blanks
    have hnil : trimStart cs = [] := List.isEmpty_iff.1 hblank
    have hnil' : back.dropWhile isBlank = [] := List.dropWhile_eq_nil_iff.2 hback
    rw [hnil', trim, hnil]
  · exact trimEnd_append_of_blank hback _

/-- A text is typed with any blanks in front of it and behind it. -/
def Pads (typed text : String) : Prop :=
  ∃ front back : List Char, (∀ c ∈ front, isBlank c = true) ∧ (∀ c ∈ back, isBlank c = true) ∧
    typed = String.ofList (front ++ text.toList ++ back)

theorem Pads.trimmed_eq {typed text : String} (h : Pads typed text) :
    trimmed typed = trimmed text := by
  obtain ⟨front, back, hfront, hback, rfl⟩ := h
  rw [trimmed, String.toList_ofList, trim_append_append hfront hback, ← trimmed]

theorem trim_trimStart (cs : List Char) : trim (trimStart cs) = trim cs := by
  have hfront : ∀ c ∈ cs.takeWhile isBlank, isBlank c = true := fun c => List.mem_takeWhile_imp
  have hback : ∀ c ∈ ([] : List Char), isBlank c = true := by simp
  have htrim := trim_append_append hfront hback (trimStart cs)
  rwa [trimStart, List.takeWhile_append_dropWhile, List.append_nil, ← trimStart, eq_comm] at htrim

theorem trim_trimEnd (cs : List Char) : trim (trimEnd cs) = trim cs := by
  have hback : ∀ c ∈ (cs.reverse.takeWhile isBlank).reverse, isBlank c = true := fun c hc =>
    List.mem_takeWhile_imp (List.mem_reverse.1 hc)
  have htext : trimEnd cs ++ (cs.reverse.takeWhile isBlank).reverse = cs := by
    rw [trimEnd, ← List.reverse_append, List.takeWhile_append_dropWhile, List.reverse_reverse]
  have hfront : ∀ c ∈ ([] : List Char), isBlank c = true := by simp
  have htrim := trim_append_append hfront hback (trimEnd cs)
  rwa [List.nil_append, htext, eq_comm] at htrim

theorem trimStart_append_cons (hc : isBlank c = false) (before after : List Char) :
    trimStart (before ++ c :: after) = trimStart before ++ c :: after := by
  unfold trimStart
  rw [List.dropWhile_append]
  split
  · next hblank =>
    rw [List.isEmpty_iff.1 hblank, List.dropWhile_cons_of_neg (by simp [hc]), List.nil_append]
  · rfl

theorem trimEnd_append_cons (hc : isBlank c = false) (before after : List Char) :
    trimEnd (before ++ c :: after) = before ++ c :: trimEnd after := by
  have hstart := congrArg List.reverse
    (trimStart_append_cons hc after.reverse before.reverse)
  simpa [trimEnd, trimStart] using hstart

/-- A text with a character inside that is no blank is trimmed on both sides of it. -/
theorem trim_of_mark (hc : isBlank c = false) (before after : List Char) :
    trim (before ++ c :: after) = trimStart before ++ c :: trimEnd after := by
  rw [trim, trimStart_append_cons hc, trimEnd_append_cons hc]

end Around

theorem trimmed_trimmed (s : String) : trimmed (trimmed s) = trimmed s := by
  rw [trimmed, toList_trimmed, trim_trim, ← trimmed]

end SessionAuth.Text
