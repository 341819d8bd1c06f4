import SessionAuth.Proofs.Service.Event

set_option autoImplicit false

/-! # The order of roles

Whatever happens to a directory, the roles of every user stand in strictly ascending order of
their names: `World.Reachable.rolesAscend`. The names that an identity carries are those of the
roles without the empty one, so they ascend as well, and a strictly ascending list is known by its
members (`eq_of_ascending`).
-/

namespace SessionAuth

/-- The names of the roles strictly ascend. -/
def Role.Ascending (rs : List Role) : Prop := rs.Pairwise fun a b => a.name < b.name

namespace Directory

/-- The roles of every user ascend. -/
def RolesAscend (d : Directory) : Prop := ∀ id, Role.Ascending (d.rolesOf id)

theorem lt_of_not_lt_of_ne {a b : String} (h : ¬ a < b) (hne : b ≠ a) : b < a := by
  rcases String.le_total a b with hle | hle
  · exact absurd (String.le_antisymm (String.not_lt.1 h) hle) hne
  · exact Decidable.byContradiction fun hlt =>
      hne (String.le_antisymm hle (String.not_lt.1 hlt))

/-- A role with a new name goes to its place in the order. -/
theorem ascending_insertByName {role : Role} {rs : List Role} (h : Role.Ascending rs)
    (hnew : ∀ r ∈ rs, r.name ≠ role.name) : Role.Ascending (insertByName role rs) := by
  induction rs with
  | nil => exact List.pairwise_singleton _ _
  | cons r rs ih =>
      obtain ⟨hr, hrs⟩ := List.pairwise_cons.1 h
      unfold insertByName
      by_cases hlt : role.name < r.name
      · -- the new name comes before `r`, and so before everything after `r`
        rw [if_pos hlt]
        refine List.pairwise_cons.2 ⟨fun x hx => ?_, h⟩
        rcases List.mem_cons.1 hx with rfl | hx
        · exact hlt
        · exact String.lt_trans hlt (hr x hx)
      · rw [if_neg hlt]
        have hafter : r.name < role.name := lt_of_not_lt_of_ne hlt (hnew r (by simp))
        refine List.pairwise_cons.2 ⟨fun x hx => ?_, ih hrs fun x hx => hnew x (by simp [hx])⟩
        rcases mem_insertByName.1 hx with rfl | hx
        · exact hafter
        · exact hr x hx

/-- An assignment keeps the order. -/
theorem ascending_withRole {role : Role} {rs : List Role} (h : Role.Ascending rs) :
    Role.Ascending (withRole role rs) := by
  unfold withRole
  by_cases hany : (rs.any fun r => r.name == role.name) = true
  · rw [if_pos hany]
    exact h
  · rw [if_neg hany]
    refine ascending_insertByName h fun r hr heq => hany ?_
    exact List.any_eq_true.2 ⟨r, hr, by simp [heq]⟩

theorem rolesAscend_assignRole {d : Directory} (h : d.RolesAscend) (id : Uuid) (role : Role) :
    (d.assignRole id role).RolesAscend := by
  intro k
  show Role.Ascending (if k = id then withRole role (d.roles k) else d.roles k)
  split
  · exact ascending_withRole (h k)
  · exact h k

theorem roles_of_change {d d' : Directory} {id : Uuid} {f : User → User}
    (h : d.change id f = .ok d') : d'.roles = d.roles := by
  unfold change at h
  split at h
  · cases h
    rfl
  · cases h

/-- Seeding changes nothing or adds one account with one role, whose email nobody had. -/
theorem of_seedAdmin_eq_ok {d : Directory} {hash : String → String} {id roleId : Uuid}
    {stamp : Instant} {email password : String} {r : User × Directory}
    (h : d.seedAdmin hash id roleId stamp email password = .ok r) :
    r.2 = d ∨ (r.1.id = id ∧ d.findByEmail r.1.email = none) ∧
      r.2 = (d.insert r.1).assignRole id (.admin roleId stamp) := by
  simp only [seedAdmin] at h
  split at h
  · cases h
  · split at h
    · cases h
      exact Or.inl rfl
    · next hnobody =>
      cases h
      exact Or.inr ⟨⟨rfl, hnobody⟩, rfl⟩

/-- **What one change does to the order of roles**: nothing. -/
theorem rolesAscend_administer {d d' : Directory} (e : Event) (hd : d.RolesAscend)
    (h : e.administer d = .ok d') : d'.RolesAscend := by
  cases e with
  | assignRole id role =>
      cases h
      exact rolesAscend_assignRole hd id role
  | setActive id active stamp =>
      intro k
      rw [rolesOf, roles_of_change h]
      exact hd k
  | softDelete id stamp =>
      intro k
      rw [rolesOf, roles_of_change h]
      exact hd k
  | seedAdmin hash id roleId stamp email password =>
      -- the new account is a change of the users only; its role is an ordinary assignment
      cases hs : d.seedAdmin hash id roleId stamp email password with
      | error f =>
          rw [Event.administer, hs] at h
          cases h
      | ok r =>
          rw [Event.administer, hs] at h
          cases h
          rcases of_seedAdmin_eq_ok hs with hsame | ⟨-, hnew⟩
          · exact hsame ▸ hd
          · rw [hnew]
            exact rolesAscend_assignRole (d := d.insert r.1) hd id _
  | _ =>
      cases h
      exact hd

end Directory

/-- **The roles of every user ascend** in every reachable world. -/
theorem World.Reachable.rolesAscend {w : World} (hw : w.Reachable) : w.users.RolesAscend :=
  hw.directory_induction (fun _ => List.Pairwise.nil)
    fun _ _ e hd h => Directory.rolesAscend_administer e hd h

namespace Role

/-- The names of some roles are those that are not empty. -/
theorem mem_names {n : String} {rs : List Role} :
    n ∈ names rs ↔ n ≠ "" ∧ ∃ r ∈ rs, r.name = n := by
  simp only [names, List.mem_filter, List.mem_map, bne_iff_ne, ne_eq]
  exact And.comm

/-- The names of roles that ascend do so too. -/
theorem names_pairwise_lt {rs : List Role} (h : Ascending rs) :
    (names rs).Pairwise (· < ·) := by
  unfold names
  exact (List.pairwise_map.2 h).filter _

end Role

/-- A list whose texts strictly ascend is known by its members. -/
theorem eq_of_ascending_by {α : Type} (f : α → String) {l₁ l₂ : List α}
    (h₁ : l₁.Pairwise fun a b => f a < f b) (h₂ : l₂.Pairwise fun a b => f a < f b)
    (hmem : ∀ a, a ∈ l₁ ↔ a ∈ l₂) : l₁ = l₂ := by
  have hnodup : ∀ {l : List α}, (l.Pairwise fun a b => f a < f b) → l.Nodup := fun h =>
    h.imp fun hlt heq => String.ne_of_lt hlt (congrArg f heq)
  have hperm : l₁.Perm l₂ := (List.perm_ext_iff_of_nodup (hnodup h₁) (hnodup h₂)).2 hmem
  exact hperm.eq_of_pairwise (fun a b _ _ hab hba => absurd hba (String.lt_asymm hab)) h₁ h₂

/-- A strictly ascending list is known by its members. -/
theorem eq_of_ascending {l₁ l₂ : List String} (h₁ : l₁.Pairwise (· < ·))
    (h₂ : l₂.Pairwise (· < ·)) (hmem : ∀ n, n ∈ l₁ ↔ n ∈ l₂) : l₁ = l₂ :=
  eq_of_ascending_by (fun n => n) h₁ h₂ hmem

end SessionAuth
