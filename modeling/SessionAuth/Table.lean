/-!
# Tables

A table holds rows that are told apart by a key: no two rows have the same one. A row that is put
into the table takes the place of the row with its key, or goes to the end if there is none, so
that the order of the rows is the order in which their keys arrived.

What a table holds is said by `get?`: a put row is found under its key (`get?_put_self`), and
under every other key the table answers as before (`get?_put_of_ne`).
-/

set_option autoImplicit false

namespace SessionAuth

variable {κ α : Type}

/-- Rows with a key each, no key twice. -/
structure Table (key : α → κ) where
  rows : List α
  nodup_keys : (rows.map key).Nodup

namespace Table

def empty (key : α → κ) : Table key := ⟨[], by simp⟩

theorem ext_rows {key : α → κ} {s t : Table key} (h : s.rows = t.rows) : s = t := by
  cases s; cases t; simp_all

def size {key : α → κ} (t : Table key) : Nat := t.rows.length

variable [DecidableEq κ]

instance {key : α → κ} [DecidableEq α] : DecidableEq (Table key) := fun s t =>
  decidable_of_iff (s.rows = t.rows) ⟨ext_rows, fun h => h ▸ rfl⟩

def get? {key : α → κ} (t : Table key) (k : κ) : Option α := t.rows.find? fun a => key a = k

/-- Replaces the first row with the key of `x`, or appends `x`. -/
def upsert (key : α → κ) (x : α) : List α → List α
  | [] => [x]
  | y :: ys => if key y = key x then x :: ys else y :: upsert key x ys

theorem upsert_of_forall_ne {key : α → κ} {x : α} {l : List α} (h : ∀ y ∈ l, key y ≠ key x) :
    upsert key x l = l ++ [x] := by
  induction l with
  | nil => rfl
  | cons y ys ih =>
    simp only [upsert, h y (by simp), if_false, List.cons_append]
    rw [ih fun z hz => h z (by simp [hz])]

/-- The keys stay as they were, or the new one goes to their end. -/
theorem keys_upsert (key : α → κ) (x : α) (l : List α) :
    (upsert key x l).map key = if key x ∈ l.map key then l.map key else l.map key ++ [key x] := by
  induction l with
  | nil => simp [upsert]
  | cons y ys ih =>
    by_cases h : key y = key x
    · simp [upsert, h]
    · simp only [upsert, h, if_false, List.map_cons, ih, List.mem_cons, Ne.symm h, false_or]
      split <;> simp

theorem nodup_keys_upsert {key : α → κ} {l : List α} (x : α) (h : (l.map key).Nodup) :
    ((upsert key x l).map key).Nodup := by
  rw [keys_upsert]
  split
  · exact h
  · next hx =>
    refine List.nodup_append.2 ⟨h, by simp, fun a ha b hb => ?_⟩
    rw [List.mem_singleton.1 hb]
    exact fun he => hx (he ▸ ha)

/-- The table with a row in the place of the one that has its key. -/
def put {key : α → κ} (t : Table key) (x : α) : Table key :=
  ⟨upsert key x t.rows, nodup_keys_upsert x t.nodup_keys⟩

theorem key_of_get? {key : α → κ} {t : Table key} {k : κ} {a : α} (h : t.get? k = some a) :
    key a = k := by
  simpa using List.find?_some h

theorem mem_of_get? {key : α → κ} {t : Table key} {k : κ} {a : α} (h : t.get? k = some a) :
    a ∈ t.rows := List.mem_of_find?_eq_some h

theorem find?_upsert_self (key : α → κ) (x : α) (l : List α) :
    (upsert key x l).find? (fun a => key a = key x) = some x := by
  induction l with
  | nil => simp [upsert]
  | cons y ys ih =>
    by_cases h : key y = key x
    · simp [upsert, h]
    · simpa [upsert, h] using ih

theorem find?_upsert_of_ne {key : α → κ} {x : α} {k : κ} (hk : key x ≠ k) (l : List α) :
    (upsert key x l).find? (fun a => key a = k) = l.find? fun a => key a = k := by
  induction l with
  | nil => simp [upsert, hk]
  | cons y ys ih =>
    by_cases h : key y = key x
    · simp [upsert, h, hk]
    · simp [upsert, h, List.find?_cons, ih]

/-- A row that was put is found under its key. -/
@[simp] theorem get?_put_self {key : α → κ} (t : Table key) (x : α) :
    (t.put x).get? (key x) = some x := find?_upsert_self key x t.rows

/-- Under any other key the table answers as before. -/
theorem get?_put_of_ne {key : α → κ} (t : Table key) {x : α} {k : κ} (hk : key x ≠ k) :
    (t.put x).get? k = t.get? k := find?_upsert_of_ne hk t.rows

theorem get?_key_of_mem {key : α → κ} {t : Table key} {a : α} (h : a ∈ t.rows) :
    t.get? (key a) = some a := by
  obtain ⟨rows, hn⟩ := t
  simp only at h
  simp only [get?]
  induction rows with
  | nil => cases h
  | cons y ys ih =>
    rw [List.map_cons, List.nodup_cons] at hn
    rcases List.mem_cons.1 h with rfl | hmem
    · simp
    · have hne : key y ≠ key a := fun he => hn.1 (he ▸ List.mem_map.2 ⟨a, hmem, rfl⟩)
      simpa [hne] using ih hn.2 hmem

/-- No other row has the key of a row that is found. -/
theorem filter_key_of_get? {key : α → κ} {t : Table key} {k : κ} {a : α} (h : t.get? k = some a) :
    t.rows.filter (fun x => key x = k) = [a] := by
  obtain ⟨rows, hn⟩ := t
  simp only [get?] at h ⊢
  induction rows with
  | nil => cases h
  | cons y ys ih =>
    rw [List.map_cons, List.nodup_cons] at hn
    by_cases hy : key y = k
    · have hrest : ys.filter (fun x => key x = k) = [] := by
        refine List.filter_eq_nil_iff.2 fun x hx hk => hn.1 ?_
        rw [hy, ← of_decide_eq_true hk]
        exact List.mem_map_of_mem hx
      rw [List.find?_cons_of_pos (by simpa using hy), Option.some.injEq] at h
      rw [List.filter_cons_of_pos (by simpa using hy), hrest, h]
    · rw [List.find?_cons_of_neg (by simpa using hy)] at h
      rw [List.filter_cons_of_neg (by simpa using hy)]
      exact ih hn.2 h

theorem get?_eq_some_iff {key : α → κ} {t : Table key} {k : κ} {a : α} :
    t.get? k = some a ↔ a ∈ t.rows ∧ key a = k :=
  ⟨fun h => ⟨mem_of_get? h, key_of_get? h⟩, fun ⟨h, hk⟩ => hk ▸ get?_key_of_mem h⟩

/-- The rows after a put are the new one and those with other keys. -/
theorem mem_rows_put {key : α → κ} {t : Table key} {x a : α} :
    a ∈ (t.put x).rows ↔ a = x ∨ a ∈ t.rows ∧ key x ≠ key a := by
  constructor
  · intro h
    have hfound : (t.put x).get? (key a) = some a := get?_key_of_mem h
    by_cases hk : key x = key a
    · rw [← hk, get?_put_self, Option.some.injEq] at hfound
      exact Or.inl hfound.symm
    · rw [get?_put_of_ne t hk] at hfound
      exact Or.inr ⟨mem_of_get? hfound, hk⟩
  · rintro (rfl | ⟨h, hk⟩)
    · exact mem_of_get? (get?_put_self t a)
    · exact mem_of_get? ((get?_put_of_ne t hk).trans (get?_key_of_mem h))

theorem rows_put_of_get?_eq_none {key : α → κ} {t : Table key} {x : α}
    (h : t.get? (key x) = none) : (t.put x).rows = t.rows ++ [x] := by
  refine upsert_of_forall_ne fun y hy he => ?_
  have := List.find?_eq_none.1 h y hy
  simp [he] at this

theorem size_put_of_get?_eq_none {key : α → κ} {t : Table key} {x : α}
    (h : t.get? (key x) = none) : (t.put x).size = t.size + 1 := by
  rw [size, rows_put_of_get?_eq_none h, List.length_append]
  rfl

theorem size_put_of_get?_eq_some {key : α → κ} {t : Table key} {x a : α}
    (h : t.get? (key x) = some a) : (t.put x).size = t.size := by
  obtain ⟨ha, hk⟩ := get?_eq_some_iff.1 h
  have hmem : key x ∈ t.rows.map key := List.mem_map.2 ⟨a, ha, hk⟩
  have hkeys := congrArg List.length (keys_upsert key x t.rows)
  rwa [if_pos hmem, List.length_map, List.length_map] at hkeys

end Table

end SessionAuth
