import SessionAuth.Uuid

set_option autoImplicit false

/-! # The canonical text of identifiers

The canonical text of an identifier reads back as the identifier (`Uuid.ofText?_text`), so that
different identifiers have different texts. It has thirty-six characters, each of them a
hexadecimal digit in lower case or a hyphen.
-/

namespace SessionAuth.Uuid

/-! ## Reading back -/

theorem mapM_hexDigit?_map (ds : List (Fin 16)) :
    (ds.map Text.hexChar).mapM Text.hexDigit? = some ds := by
  induction ds with
  | nil => rfl
  | cons d ds ih => simp [List.mapM_cons, ih]

theorem ofBare?_map (u : Uuid) : ofBare? (u.digits.map Text.hexChar) = some u := by
  rw [ofBare?, mapM_hexDigit?_map]
  simp [ofDigits?, u.length_digits]

/-- A text of five groups is read as the groups without the hyphens between them. -/
theorem ofHyphenated?_groups {a b c d : List Char} (e : List Char) (ha : a.length = 8)
    (hb : b.length = 4) (hc : c.length = 4) (hd : d.length = 4) :
    ofHyphenated? (a ++ '-' :: b ++ '-' :: c ++ '-' :: d ++ '-' :: e) =
      ofBare? (a ++ b ++ c ++ d ++ e) := by
  simp (disch := omega) [ofHyphenated?, List.take_append, List.drop_append,
    List.drop_eq_nil_of_le, ha, hb, hc, hd]

theorem length_hyphenate {cs : List Char} (h : cs.length = 32) : (hyphenate cs).length = 36 := by
  simp only [hyphenate, List.length_append, List.length_cons, List.length_take,
    List.length_drop]
  omega

/-- Thirty-two characters are the groups they are cut into. -/
theorem groups_append (cs : List Char) :
    cs.take 8 ++ (cs.drop 8).take 4 ++ (cs.drop 12).take 4 ++ (cs.drop 16).take 4 ++
      cs.drop 20 = cs := by
  have h16 : (cs.drop 16).take 4 ++ cs.drop 20 = cs.drop 16 := by
    rw [show cs.drop 20 = (cs.drop 16).drop 4 by rw [List.drop_drop], List.take_append_drop]
  have h12 : (cs.drop 12).take 4 ++ cs.drop 16 = cs.drop 12 := by
    rw [show cs.drop 16 = (cs.drop 12).drop 4 by rw [List.drop_drop], List.take_append_drop]
  have h8 : (cs.drop 8).take 4 ++ cs.drop 12 = cs.drop 8 := by
    rw [show cs.drop 12 = (cs.drop 8).drop 4 by rw [List.drop_drop], List.take_append_drop]
  rw [List.append_assoc, h16, List.append_assoc, h12, List.append_assoc, h8,
    List.take_append_drop]

/-- Characters with hyphens set between them are read as they are without. -/
theorem ofHyphenated?_hyphenate {cs : List Char} (h : cs.length = 32) :
    ofHyphenated? (hyphenate cs) = ofBare? cs := by
  have hgroups := ofHyphenated?_groups (cs.drop 20) (a := cs.take 8) (b := (cs.drop 8).take 4)
    (c := (cs.drop 12).take 4) (d := (cs.drop 16).take 4) (by simp [h]) (by simp [h])
    (by simp [h]) (by simp [h])
  rw [groups_append] at hgroups
  exact hgroups

theorem toList_text (u : Uuid) : u.text.toList = hyphenate (u.digits.map Text.hexChar) := by
  simp [text, chars]

/-- **The canonical text reads back.** -/
theorem ofText?_text (u : Uuid) : ofText? u.text = some u := by
  have hlen : (u.digits.map Text.hexChar).length = 32 := by
    rw [List.length_map, u.length_digits]
  have h36 : u.text.toList.length = 36 := by
    rw [toList_text, length_hyphenate hlen]
  calc ofText? u.text = ofHyphenated? (hyphenate (u.digits.map Text.hexChar)) := by
        rw [ofText?, ofChars?, h36, toList_text]
        rfl
    _ = ofBare? (u.digits.map Text.hexChar) := ofHyphenated?_hyphenate hlen
    _ = some u := ofBare?_map u

/-! ## Its characters -/

/-- The character is a hexadecimal digit in lower case or a hyphen. -/
def IsMark (c : Char) : Prop := c = '-' ∨ ∃ d, c = Text.hexChar d

theorem isMark_of_mem_hyphenate {cs : List Char} (h : ∀ c ∈ cs, IsMark c) :
    ∀ c ∈ hyphenate cs, IsMark c := by
  intro c hc
  simp only [hyphenate, List.mem_append, List.mem_cons, or_assoc] at hc
  rcases hc with hc | rfl | hc | rfl | hc | rfl | hc | rfl | hc
  · exact h c (List.mem_of_mem_take hc)
  · exact Or.inl rfl
  · exact h c (List.mem_of_mem_drop (List.mem_of_mem_take hc))
  · exact Or.inl rfl
  · exact h c (List.mem_of_mem_drop (List.mem_of_mem_take hc))
  · exact Or.inl rfl
  · exact h c (List.mem_of_mem_drop (List.mem_of_mem_take hc))
  · exact Or.inl rfl
  · exact h c (List.mem_of_mem_drop hc)

/-- The canonical text consists of digits and hyphens. -/
theorem isMark_of_mem_text {u : Uuid} {c : Char} (hc : c ∈ u.text.toList) : IsMark c := by
  rw [toList_text] at hc
  refine isMark_of_mem_hyphenate (fun c hc => ?_) c hc
  obtain ⟨d, -, rfl⟩ := List.mem_map.1 hc
  exact Or.inr ⟨d, rfl⟩

/-- The canonical text is not empty. -/
theorem toList_text_ne_nil (u : Uuid) : u.text.toList ≠ [] := by
  rw [toList_text]
  simp [hyphenate]

end SessionAuth.Uuid
