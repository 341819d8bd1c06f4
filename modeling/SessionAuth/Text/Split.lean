/-!
# Cutting text at a mark

`splitAt c` cuts a text at every `c` and so has always at least one piece; `cutAt? c` cuts it at
the first `c` only and fails where there is none.
-/

set_option autoImplicit false

namespace SessionAuth.Text

/-- The pieces between the marks. -/
def splitAt (c : Char) : List Char → List (List Char)
  | [] => [[]]
  | d :: cs =>
    if d = c then [] :: splitAt c cs
    else
      match splitAt c cs with
      | [] => [[d]]
      | piece :: pieces => (d :: piece) :: pieces

/-- What stands before and after the first mark. -/
def cutAt? (c : Char) : List Char → Option (List Char × List Char)
  | [] => none
  | d :: cs =>
    if d = c then some ([], cs)
    else (cutAt? c cs).map fun (before, after) => (d :: before, after)

theorem splitAt_ne_nil (c : Char) (cs : List Char) : splitAt c cs ≠ [] := by
  cases cs with
  | nil => simp [splitAt]
  | cons d cs =>
    unfold splitAt
    split
    · simp
    · split <;> simp

theorem splitAt_of_not_mem {c : Char} {cs : List Char} (h : c ∉ cs) : splitAt c cs = [cs] := by
  induction cs with
  | nil => rfl
  | cons d cs ih =>
    rw [List.mem_cons, not_or] at h
    simp [splitAt, Ne.symm h.1, ih h.2]

theorem splitAt_append_cons {c : Char} {before : List Char} (after : List Char)
    (h : c ∉ before) : splitAt c (before ++ c :: after) = before :: splitAt c after := by
  induction before with
  | nil => simp [splitAt]
  | cons d before ih =>
    rw [List.mem_cons, not_or] at h
    simp [splitAt, Ne.symm h.1, ih h.2]

theorem cutAt?_eq_some_iff {c : Char} {cs before after : List Char} :
    cutAt? c cs = some (before, after) ↔ cs = before ++ c :: after ∧ c ∉ before := by
  induction cs generalizing before after with
  | nil => simp [cutAt?]
  | cons d cs ih =>
    unfold cutAt?
    split
    case isTrue h =>
      subst h
      cases before with
      | nil => simp
      | cons e before =>
        simp only [Option.some.injEq, Prod.mk.injEq, List.cons_append, List.cons.injEq,
          List.mem_cons, not_or]
        constructor
        · rintro ⟨h, -⟩; cases h
        · rintro ⟨⟨rfl, -⟩, h, -⟩; exact absurd rfl h
    case isFalse h =>
      cases before with
      | nil =>
        simp only [Option.map_eq_some_iff, Prod.mk.injEq, List.nil_append, List.cons.injEq,
          reduceCtorEq, false_and, and_false, exists_const, false_iff]
        rintro ⟨⟨rfl, -⟩, -⟩; exact h rfl
      | cons e before =>
        simp only [Option.map_eq_some_iff, Prod.mk.injEq, Prod.exists, List.cons_append,
          List.cons.injEq, List.mem_cons, not_or]
        constructor
        · rintro ⟨b, a, hc, ⟨rfl, rfl⟩, rfl⟩
          obtain ⟨rfl, hb⟩ := ih.1 hc
          exact ⟨⟨rfl, rfl⟩, Ne.symm h, hb⟩
        · rintro ⟨⟨rfl, rfl⟩, -, hb⟩
          exact ⟨_, _, ih.2 ⟨rfl, hb⟩, ⟨rfl, rfl⟩, rfl⟩

theorem cutAt?_eq_none_iff {c : Char} {cs : List Char} : cutAt? c cs = none ↔ c ∉ cs := by
  induction cs with
  | nil => simp [cutAt?]
  | cons d cs ih =>
    unfold cutAt?
    split
    case isTrue h => simp [h]
    case isFalse h => simp [ih, Ne.symm h]

end SessionAuth.Text
