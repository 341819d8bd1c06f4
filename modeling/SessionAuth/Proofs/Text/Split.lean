import SessionAuth.Text.Split

set_option autoImplicit false

/-! # Pieces and the marks between them

Cutting a text at every mark and putting the pieces together with a mark between them are inverse to
each other: `Text.intercalate_splitAt`, `Text.splitAt_intercalate`. So a mark in the middle of a
text divides its pieces, those in front of it from those behind it (`Text.splitAt_append_mark`).
-/

namespace SessionAuth.Text

variable {c : Char} {pieces : List (List Char)}

theorem splitAt_eq_splitOn (c : Char) (cs : List Char) : splitAt c cs = cs.splitOn c := by
  induction cs with
  | nil => rfl
  | cons d cs ih =>
      rw [splitAt, ih, List.splitOn_cons_eq_if_modifyHead]
      by_cases hd : d = c
      · rw [if_pos hd, if_pos (by simpa using hd)]
      · rw [if_neg hd, if_neg (by simpa using hd)]
        cases hrest : cs.splitOn c with
        | nil => exact absurd hrest (List.splitOn_ne_nil c cs)
        | cons piece pieces => rfl

/-- **A mark divides the pieces** of what stands on its two sides. -/
theorem splitAt_append_mark (c : Char) (before after : List Char) :
    splitAt c (before ++ c :: after) = splitAt c before ++ splitAt c after := by
  simp only [splitAt_eq_splitOn, List.splitOn_append_cons_self]

/-- The pieces with a mark between them are the text. -/
theorem intercalate_splitAt (c : Char) (cs : List Char) : [c].intercalate (splitAt c cs) = cs := by
  rw [splitAt_eq_splitOn, List.intercalate_splitOn]

/-- Pieces with a mark between them are told apart. -/
theorem splitAt_intercalate (hnil : pieces ≠ []) (h : ∀ p ∈ pieces, c ∉ p) :
    splitAt c ([c].intercalate pieces) = pieces := by
  rw [splitAt_eq_splitOn, List.splitOn_intercalate c h hnil]

/-- So are pieces with a mark in front of each. -/
theorem splitAt_flatMap_cons (h : ∀ p ∈ pieces, c ∉ p) :
    splitAt c (pieces.flatMap fun p => c :: p) = [] :: pieces := by
  induction pieces with
  | nil => rfl
  | cons p pieces ih =>
      have hp := h p List.mem_cons_self
      have hpieces := ih fun q hq => h q (List.mem_cons_of_mem p hq)
      rw [List.flatMap_cons, List.cons_append, splitAt, if_pos rfl]
      cases pieces with
      | nil => rw [List.flatMap_nil, List.append_nil, splitAt_of_not_mem hp]
      | cons q pieces =>
          rw [List.flatMap_cons, List.cons_append, splitAt, if_pos rfl] at hpieces
          rw [List.flatMap_cons, List.cons_append, splitAt_append_cons _ hp,
            (List.cons.inj hpieces).2]

/-- Between the marks there is nothing but the pieces. -/
theorem not_mem_intercalate {d : Char} (hd : c ≠ d) (h : ∀ p ∈ pieces, c ∉ p) :
    c ∉ [d].intercalate pieces := by
  induction pieces with
  | nil => exact List.not_mem_nil
  | cons p pieces ih =>
      have hp := h p List.mem_cons_self
      have hpieces := ih fun q hq => h q (List.mem_cons_of_mem p hq)
      cases pieces with
      | nil =>
          rw [List.intercalate_singleton]
          exact hp
      | cons q pieces =>
          rw [List.intercalate_cons_cons, List.mem_append, List.mem_append, List.mem_singleton]
          rintro ((hmem | hmem) | hmem)
          · exact hp hmem
          · exact hd hmem
          · exact hpieces hmem

/-- The first piece is what stands before the first mark. -/
theorem headD_splitAt (c : Char) (cs : List Char) :
    (splitAt c cs).headD [] = cs.takeWhile (· != c) := by
  induction cs with
  | nil => rfl
  | cons d cs ih =>
      unfold splitAt
      by_cases hd : d = c
      · simp [hd]
      · rw [if_neg hd, List.takeWhile_cons_of_pos (by simpa using hd), ← ih]
        cases hsplit : splitAt c cs with
        | nil => exact absurd hsplit (splitAt_ne_nil c cs)
        | cons piece pieces => rfl

/-- A piece of a text holds no mark, and nothing that is not in the text. -/
theorem of_mem_splitAt {cs piece : List Char} (h : piece ∈ splitAt c cs) :
    c ∉ piece ∧ piece ⊆ cs := by
  induction cs generalizing piece with
  | nil =>
      rw [splitAt, List.mem_singleton] at h
      subst h
      exact ⟨List.not_mem_nil, fun _ hd => hd⟩
  | cons d cs ih =>
      unfold splitAt at h
      by_cases hd : d = c
      · rw [if_pos hd, List.mem_cons] at h
        rcases h with rfl | h
        · exact ⟨List.not_mem_nil, List.nil_subset _⟩
        · obtain ⟨hmark, hsub⟩ := ih h
          exact ⟨hmark, List.subset_cons_of_subset d hsub⟩
      · rw [if_neg hd] at h
        cases hrest : splitAt c cs with
        | nil => exact absurd hrest (splitAt_ne_nil c cs)
        | cons first others =>
            rw [hrest] at h
            rcases List.mem_cons.1 h with rfl | h
            · -- the character goes to the front of the first piece of the rest
              obtain ⟨hmark, hsub⟩ := ih (hrest ▸ List.mem_cons_self)
              refine ⟨?_, List.cons_subset_cons d hsub⟩
              rw [List.mem_cons, not_or]
              exact ⟨Ne.symm hd, hmark⟩
            · obtain ⟨hmark, hsub⟩ := ih (hrest ▸ List.mem_cons_of_mem first h)
              exact ⟨hmark, List.subset_cons_of_subset d hsub⟩

end SessionAuth.Text
