import Mathlib.Algebra.Group.Nat.Defs
import SessionAuth.Http.Address
import SessionAuth.Text.Blank

set_option autoImplicit false

/-! # The width of an address

The text of a network address is never blank, holds no blanks, and fits the column that a session
keeps for it, also where it wraps an address of four octets or leaves out a run of zeros
(`Address.fits_text`).
-/

namespace SessionAuth

namespace Text

/-- The text has at most `width` characters, and no blank among them. -/
structure Fits (width : Nat) (s : String) : Prop where
  length_le : s.toList.length ≤ width
  isBlank_eq_false : ∀ c ∈ s.toList, isBlank c = false

namespace Fits

variable {m n : Nat} {s t : String}

theorem of_all (hlength : s.toList.length ≤ n) (hall : (s.toList.all fun c => !isBlank c) = true) :
    Fits n s :=
  ⟨hlength, by simpa using hall⟩

theorem mono (h : Fits m s) (hle : m ≤ n) : Fits n s :=
  ⟨Nat.le_trans h.length_le hle, h.isBlank_eq_false⟩

theorem append (hs : Fits m s) (ht : Fits n t) : Fits (m + n) (s ++ t) where
  length_le := by
    have hlength := Nat.add_le_add hs.length_le ht.length_le
    rwa [String.toList_append, List.length_append]
  isBlank_eq_false := by
    intro c hc
    rw [String.toList_append, List.mem_append] at hc
    rcases hc with hc | hc
    · exact hs.isBlank_eq_false c hc
    · exact ht.isBlank_eq_false c hc

/-- Parts with a mark between them fit where each part with a mark fits. -/
theorem intercalate {mark : String} (hmark : Fits 1 mark) (parts : List String)
    (h : ∀ p ∈ parts, Fits m p) : Fits (parts.length * (m + 1)) (mark.intercalate parts) := by
  induction parts with
  | nil => exact ⟨by simp, by simp⟩
  | cons p parts ih =>
      have hp := h p List.mem_cons_self
      have hparts := ih fun q hq => h q (List.mem_cons_of_mem p hq)
      cases parts with
      | nil =>
          rw [String.intercalate_singleton]
          exact hp.mono (by simp)
      | cons q parts =>
          rw [String.intercalate_cons_cons]
          refine ((hp.append hmark).append hparts).mono ?_
          rw [List.length_cons (a := p), Nat.add_one_mul]
          omega

end Fits

/-- A mark between two parts is seen. -/
theorem intercalate_ne_nil {mark : String} (hmark : mark.toList ≠ []) (p q : String)
    (parts : List String) : (mark.intercalate (p :: q :: parts)).toList ≠ [] := by
  rw [String.intercalate_cons_cons, String.toList_append, String.toList_append]
  intro hnil
  exact hmark (List.append_eq_nil_iff.1 (List.append_eq_nil_iff.1 hnil).1).2

end Text

namespace Address

open Text

/-! ## Numerals -/

theorem exists_digitChar_of_mem_toDigits {base n : Nat} (hbase : 1 < base) {c : Char}
    (hc : c ∈ Nat.toDigits base n) : ∃ d < base, c = Nat.digitChar d := by
  induction n using Nat.strongRecOn with
  | ind n ih =>
      rw [Nat.toDigits_eq_if hbase] at hc
      by_cases hn : n < base
      · rw [if_pos hn, List.mem_singleton] at hc
        exact ⟨n, hn, hc⟩
      · rw [if_neg hn, List.mem_append, List.mem_singleton] at hc
        rcases hc with hc | hc
        · exact ih (n / base) (Nat.div_lt_self (by omega) hbase) hc
        · exact ⟨n % base, Nat.mod_lt n (by omega), hc⟩

/-- A number below `base ^ width` is written with at most `width` digits. -/
theorem fits_numeral {base n width : Nat} (hbase : 1 < base) (hsmall : base ≤ 16)
    (hwidth : 0 < width) (hn : n < base ^ width) : Fits width (numeral base n) where
  length_le := by
    rw [numeral, String.toList_ofList]
    exact (Nat.length_toDigits_le_iff hbase hwidth).2 hn
  isBlank_eq_false := by
    have hdigits : ∀ d < 16, isBlank (Nat.digitChar d) = false := by decide
    intro c hc
    rw [numeral, String.toList_ofList] at hc
    obtain ⟨d, hd, rfl⟩ := exists_digitChar_of_mem_toDigits hbase hc
    exact hdigits d (by omega)

/-! ## Texts -/

theorem fits_octetsText (os : List UInt8) : Fits (os.length * 4) (octetsText os) := by
  have hmark : Fits 1 "." := .of_all (by decide) (by decide)
  have hparts := hmark.intercalate (m := 3) (os.map fun o => numeral 10 o.toNat) <| by
    intro p hp
    obtain ⟨o, -, rfl⟩ := List.mem_map.1 hp
    have := o.toNat_lt
    exact fits_numeral (by decide) (by decide) (by decide) (by omega)
  rwa [List.length_map] at hparts

theorem fits_groupsText (gs : List UInt16) : Fits (gs.length * 5) (groupsText gs) := by
  have hmark : Fits 1 ":" := .of_all (by decide) (by decide)
  have hparts := hmark.intercalate (m := 4) (gs.map fun g => numeral 16 g.toNat) <| by
    intro p hp
    obtain ⟨g, -, rfl⟩ := List.mem_map.1 hp
    have := g.toNat_lt
    exact fits_numeral (by decide) (by decide) (by decide) (by omega)
  rwa [List.length_map] at hparts

theorem length_of_wrapped? {gs : List UInt16} {os : List UInt8} (h : wrapped? gs = some os) :
    os.length = 4 := by
  unfold wrapped? at h
  split at h
  · cases h
    rfl
  · cases h

/-- Leaving out a run leaves no more groups than there were. -/
theorem length_aroundRun_le (n : Nat) (gs : List UInt16) :
    (aroundRun n gs).1.length + (aroundRun n gs).2.length ≤ gs.length := by
  induction gs with
  | nil => exact Nat.le_refl 0
  | cons g gs ih =>
      unfold aroundRun
      split
      · simp only [List.length_nil, List.length_drop, List.length_cons]
        omega
      · simp only [List.length_cons]
        omega

/-- **The text of an address fits 64 characters.** -/
theorem fits_text (a : Address) : Fits 64 a.text := by
  cases a with
  | octets a b c d =>
      refine (fits_octetsText [a, b, c, d]).mono ?_
      simp
  | groups gs =>
      have hlength : gs.toList.length = 8 := Vector.length_toList
      rw [text]
      cases hwrapped : wrapped? gs.toList with
      | some os =>
          have hfront : Fits 7 "::ffff:" := .of_all (by decide) (by decide)
          have hoctets := fits_octetsText os
          rw [length_of_wrapped? hwrapped] at hoctets
          exact (hfront.append hoctets).mono (by decide)
      | none =>
          dsimp only
          by_cases hrun : longestRun gs.toList < 2
          · rw [if_pos hrun]
            refine (fits_groupsText gs.toList).mono ?_
            omega
          · have haround := length_aroundRun_le (longestRun gs.toList) gs.toList
            have hgap : Fits 2 "::" := .of_all (by decide) (by decide)
            rw [if_neg hrun]
            refine (((fits_groupsText _).append hgap).append (fits_groupsText _)).mono ?_
            omega

/-- There always is a mark in it. -/
theorem text_ne_nil (a : Address) : a.text.toList ≠ [] := by
  cases a with
  | octets a b c d => exact intercalate_ne_nil (by decide) _ _ _
  | groups gs =>
      have hlength : gs.toList.length = 8 := Vector.length_toList
      rw [text]
      cases wrapped? gs.toList with
      | some os =>
          intro hnil
          rw [String.toList_append] at hnil
          exact absurd (List.append_eq_nil_iff.1 hnil).1 (by decide)
      | none =>
          dsimp only
          by_cases hrun : longestRun gs.toList < 2
          · rw [if_pos hrun]
            match gs.toList, hlength with
            | g :: h :: rest, _ => exact intercalate_ne_nil (by decide) _ _ _
          · rw [if_neg hrun]
            intro hnil
            rw [String.toList_append, String.toList_append] at hnil
            have hgap := (List.append_eq_nil_iff.1 (List.append_eq_nil_iff.1 hnil).1).2
            exact absurd hgap (by decide)

end Address

end SessionAuth
