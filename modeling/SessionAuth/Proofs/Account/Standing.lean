import SessionAuth.Proofs.Account.RoleOrder

set_option autoImplicit false

/-! # Who is let in and who is not

What a change of the directory makes of the row under one identifier is one of four things: nothing,
the row is switched on or off, it is deleted, or another row is stored in its place
(`Directory.alters_administer`). An identifier is *barred* if nobody who is switched on is found
under it. Switching off and deleting bar an identifier, and it stays barred as long as nobody
switches its user on or stores one there: `World.bars_through`.
-/

namespace SessionAuth

namespace Event

/-- The event stores a user under an identifier. -/
def Inserts (id : Uuid) : Event → Prop
  | .insertUser u => u.id = id
  | .seedAdmin _ id' _ _ _ _ => id' = id
  | _ => False

/-- The event may let a user back in. -/
def Restores (id : Uuid) (e : Event) : Prop :=
  e.Inserts id ∨ ∃ stamp, e = .setActive id true stamp

/-- The event switches a user off or deletes it. -/
def Strikes (id : Uuid) (e : Event) : Prop :=
  (∃ stamp, e = .setActive id false stamp) ∨ ∃ stamp, e = .softDelete id stamp

end Event

namespace Directory

variable {d d' : Directory} {id : Uuid}

/-- What a change of the directory makes of the row under an identifier. -/
inductive Alters (d d' : Directory) (id : Uuid) : Event → Prop
  | nothing {e : Event} (same : d'.users.get? id = d.users.get? id) : Alters d d' id e
  | switched {active : Bool} {stamp : Instant} {u : User} (stored : d.users.get? id = some u)
      (now : d'.users.get? id = some { u with isActive := active, updatedAt := stamp }) :
      Alters d d' id (.setActive id active stamp)
  | deleted {stamp : Instant} {u : User} (stored : d.users.get? id = some u)
      (now : d'.users.get? id = some { u with deletedAt := some stamp }) :
      Alters d d' id (.softDelete id stamp)
  | inserted {e : Event} (inserts : e.Inserts id) : Alters d d' id e

/-- A change of one row puts the new row in the place of the old one. -/
theorem of_change_eq_ok {f : User → User} (h : d.change id f = .ok d') :
    ∃ u, d.users.get? id = some u ∧ d' = d.insert (f u) := by
  unfold change at h
  cases hu : d.users.get? id with
  | none =>
      rw [hu] at h
      cases h
  | some u =>
      rw [hu] at h
      cases h
      exact ⟨u, rfl, rfl⟩

/-- A change of one row is a change of the row under its identifier, if it keeps identifiers. -/
theorem get?_of_change {f : User → User} (hf : ∀ u, (f u).id = u.id) {id' : Uuid}
    (h : d.change id' f = .ok d') (id : Uuid) :
    (id' = id ∧ ∃ u, d.users.get? id = some u ∧ d'.users.get? id = some (f u)) ∨
      d'.users.get? id = d.users.get? id := by
  obtain ⟨u, hu, rfl⟩ := of_change_eq_ok h
  have hkey : (f u).id = id' := (hf u).trans (Table.key_of_get? hu)
  by_cases hid : id' = id
  · subst hid
    have hself := Table.get?_put_self d.users (f u)
    rw [hkey] at hself
    exact Or.inl ⟨rfl, u, hu, hself⟩
  · have hne : (f u).id ≠ id := fun heq => hid (hkey.symm.trans heq)
    exact Or.inr (Table.get?_put_of_ne d.users hne)

/-- **What one change makes of a row.** -/
theorem alters_administer {e : Event} (h : e.administer d = .ok d') (id : Uuid) :
    Alters d d' id e := by
  cases e with
  | insertUser u =>
      by_cases hid : u.id = id
      · exact .inserted hid
      · cases h
        exact .nothing (Table.get?_put_of_ne d.users hid)
  | setActive id' active stamp =>
      rcases get?_of_change (f := fun u => { u with isActive := active, updatedAt := stamp })
        (fun _ => rfl) h id with ⟨rfl, u, hstored, hnow⟩ | hsame
      · exact .switched hstored hnow
      · exact .nothing hsame
  | softDelete id' stamp =>
      rcases get?_of_change (f := fun u => { u with deletedAt := some stamp })
        (fun _ => rfl) h id with ⟨rfl, u, hstored, hnow⟩ | hsame
      · exact .deleted hstored hnow
      · exact .nothing hsame
  | seedAdmin hash id' roleId stamp email password =>
      by_cases hid : id' = id
      · exact .inserted hid
      · cases hseed : d.seedAdmin hash id' roleId stamp email password with
        | error f =>
            rw [Event.administer, hseed] at h
            cases h
        | ok r =>
            rw [Event.administer, hseed] at h
            cases h
            rcases of_seedAdmin_eq_ok hseed with hsame | ⟨⟨hkey, -⟩, hnew⟩
            · exact .nothing (by rw [hsame])
            · refine .nothing ?_
              rw [hnew]
              exact Table.get?_put_of_ne d.users (by rwa [hkey])
  | _ =>
      cases h
      exact .nothing rfl

/-! ## Barred -/

/-- Nobody who is switched on is found under the identifier. -/
def Bars (d : Directory) (id : Uuid) : Prop := ∀ u, d.findById id = some u → u.isActive = false

theorem bars_of_get? (h : ∀ u, d.users.get? id = some u → u.deletedAt ≠ none ∨ u.isActive = false) :
    d.Bars id := by
  intro u hu
  obtain ⟨hstored, hundeleted⟩ := findById_eq_some_iff.1 hu
  refine (h u hstored).resolve_left fun hdeleted => hdeleted ?_
  simpa [User.isDeleted] using hundeleted

/-- A change that switches off or deletes whom it finds bars the identifier. -/
theorem bars_of_change {f : User → User} (hf : ∀ u, (f u).id = u.id)
    (hbars : ∀ u, (f u).deletedAt ≠ none ∨ (f u).isActive = false) (d : Directory) (id : Uuid) :
    ((d.change id f).toOption.getD d).Bars id := by
  cases hd : d.change id f with
  | error e =>
      -- there is nobody under the identifier
      refine bars_of_get? fun u hu => ?_
      unfold change at hd
      simp only [Except.toOption, Option.getD_none] at hu
      rw [hu] at hd
      cases hd
  | ok d' =>
      refine bars_of_get? fun u hu => ?_
      obtain ⟨v, hv, rfl⟩ := of_change_eq_ok hd
      have hself := Table.get?_put_self d.users (f v)
      rw [hf v, Table.key_of_get? hv] at hself
      cases hself.symm.trans hu
      exact hbars v

/-- An identifier stays barred by a change that lets nobody in. -/
theorem bars_administer {e : Event} (hd : d.Bars id) (he : ¬ e.Restores id)
    (h : e.administer d = .ok d') : d'.Bars id := by
  intro u hu
  obtain ⟨hstored, hundeleted⟩ := findById_eq_some_iff.1 hu
  cases alters_administer h id with
  | nothing same => exact hd u (findById_eq_some_iff.2 ⟨same ▸ hstored, hundeleted⟩)
  | inserted inserts => exact absurd (Or.inl inserts) he
  | deleted stored now =>
      cases hstored.symm.trans now
      cases hundeleted
  | @switched active stamp v stored now =>
      cases hstored.symm.trans now
      cases active with
      | false => rfl
      | true => exact absurd (Or.inr ⟨stamp, rfl⟩) he

end Directory

namespace World

variable {w : World} {id : Uuid} {e : Event}

theorem bars_after (hw : w.users.Bars id) (he : ¬ e.Restores id) : (w.after e).users.Bars id := by
  rcases users_after w e with hsame | hchange
  · rwa [hsame]
  · exact Directory.bars_administer hw he hchange

/-- **A barred identifier stays barred** until somebody is let in under it again. -/
theorem bars_through {es : List Event} (hw : w.users.Bars id)
    (hes : ∀ e ∈ es, ¬ e.Restores id) : (w.through es).users.Bars id := by
  induction es generalizing w with
  | nil => exact hw
  | cons e es ih =>
      obtain ⟨he, hrest⟩ := List.forall_mem_cons.1 hes
      exact ih (bars_after hw he) hrest

/-- Whoever is switched off or deleted is barred, and so is who is not there to be. -/
theorem bars_of_strikes (he : e.Strikes id) : (w.after e).users.Bars id := by
  obtain ⟨stamp, rfl⟩ | ⟨stamp, rfl⟩ := he
  · exact Directory.bars_of_change (f := fun u => { u with isActive := false, updatedAt := stamp })
      (fun _ => rfl) (fun _ => Or.inr rfl) w.users id
  · exact Directory.bars_of_change (f := fun u => { u with deletedAt := some stamp })
      (fun _ => rfl) (fun _ => Or.inl nofun) w.users id

end World

end SessionAuth
