import SessionAuth.Proofs.Service.Credentials
import SessionAuth.Proofs.Account.RoleOrder

set_option autoImplicit false

/-! # Whom an email names

An email names at most one account if no two accounts share it, deleted ones apart
(`Directory.EmailsUnique`). The directory finds the first row with an email, so this is also what it
takes for the answer not to depend on the order in which the rows happen to stand
(`Directory.emailsUnique_iff_reordered`), and then no program sees the order at all
(`Program.run_reordered`).

Seeding looks first whether the email is taken, and switching, deleting and assigning roles touch no
email. Storing a user does not look. So emails are shared exactly if somebody stores a user whose
email another one has: `World.emails_identify`.
-/

namespace SessionAuth

/-- The event stores a user whose email somebody else has, and neither of the two is deleted. -/
def Event.Collides (d : Directory) (e : Event) : Prop :=
  ∃ u, e = .insertUser u ∧ u.deletedAt = none ∧
    ∃ v ∈ d.users.rows, v.id ≠ u.id ∧ v.deletedAt = none ∧ v.email = u.email

namespace Directory

variable {d d' : Directory}

/-! ## What one change does -/

/-- **A row that is stored keeps emails unique** exactly if it is deleted or nobody else has its
email. -/
theorem emailsUnique_insert_iff (hd : d.EmailsUnique) (u : User) :
    (d.insert u).EmailsUnique ↔
      (u.deletedAt = none →
        ∀ v ∈ d.users.rows, v.id ≠ u.id → v.deletedAt = none → v.email ≠ u.email) := by
  constructor
  · intro hunique hvisible v hv hother hvisible' hemail
    have hnew : u ∈ (d.insert u).users.rows := Table.mem_rows_put.2 (Or.inl rfl)
    have hold : v ∈ (d.insert u).users.rows := Table.mem_rows_put.2 (Or.inr ⟨hv, hother.symm⟩)
    exact hother (congrArg User.id (hunique v hold u hnew hvisible' hvisible hemail))
  · intro hfree a ha b hb hdeleted hdeleted' hemail
    rcases Table.mem_rows_put.1 ha with rfl | ⟨hold, hka⟩
    · rcases Table.mem_rows_put.1 hb with rfl | ⟨hold', hkb⟩
      · rfl
      · exact absurd hemail.symm (hfree hdeleted b hold' hkb.symm hdeleted')
    · rcases Table.mem_rows_put.1 hb with rfl | ⟨hold', hkb⟩
      · exact absurd hemail (hfree hdeleted' a hold hka.symm hdeleted)
      · exact hd a hold b hold' hdeleted hdeleted' hemail

/-- A row that is changed, but neither renamed nor brought back, keeps emails unique. -/
theorem emailsUnique_change {id : Uuid} {f : User → User} (hd : d.EmailsUnique)
    (hid : ∀ u, (f u).id = u.id) (hemail : ∀ u, (f u).email = u.email)
    (hback : ∀ u, (f u).deletedAt = none → u.deletedAt = none) (h : d.change id f = .ok d') :
    d'.EmailsUnique := by
  unfold change at h
  cases hu : d.users.get? id with
  | none =>
      rw [hu] at h
      cases h
  | some u =>
      rw [hu] at h
      cases h
      refine (emailsUnique_insert_iff hd (f u)).2 fun hvisible v hv hother hvisible' hsame => ?_
      have hmem : u ∈ d.users.rows := Table.mem_of_get? hu
      have heq : v = u := hd v hv u hmem hvisible' (hback u hvisible) (hsame.trans (hemail u))
      exact hother (by rw [heq, hid])

/-- **A change that does not collide keeps emails unique.** -/
theorem emailsUnique_administer {e : Event} (hd : d.EmailsUnique) (he : ¬ e.Collides d)
    (h : e.administer d = .ok d') : d'.EmailsUnique := by
  cases e with
  | insertUser u =>
      cases h
      refine (emailsUnique_insert_iff hd u).2 fun hvisible v hv hother hvisible' hsame => he ?_
      exact ⟨u, rfl, hvisible, v, hv, hother, hvisible', hsame⟩
  | setActive id active stamp =>
      exact emailsUnique_change (f := fun u => { u with isActive := active, updatedAt := stamp }) hd
        (fun _ => rfl) (fun _ => rfl) (fun _ hvisible => hvisible) h
  | softDelete id stamp =>
      exact emailsUnique_change (f := fun u => { u with deletedAt := some stamp }) hd
        (fun _ => rfl) (fun _ => rfl) (fun _ hvisible => nomatch hvisible) h
  | seedAdmin hash id roleId stamp email password =>
      cases hseed : d.seedAdmin hash id roleId stamp email password with
      | error f =>
          rw [Event.administer, hseed] at h
          cases h
      | ok r =>
          rw [Event.administer, hseed] at h
          cases h
          rcases of_seedAdmin_eq_ok hseed with hsame | ⟨⟨-, hnobody⟩, hnew⟩
          · exact hsame ▸ hd
          · -- the new account has an email that was not found
            rw [hnew]
            refine (emailsUnique_insert_iff hd r.1).2 fun _ v hv _ hvisible hsame => ?_
            exact findByEmail_eq_none_iff.1 hnobody v hv hsame hvisible
  | _ =>
      cases h
      exact hd

/-! ## The order of the rows -/

/-- The directories differ in nothing but the order of the rows. -/
def Reordered (d d' : Directory) : Prop :=
  d'.users.rows.Perm d.users.rows ∧ d'.roles = d.roles

theorem Reordered.findById (h : d.Reordered d') (id : Uuid) : d'.findById id = d.findById id := by
  have hrow : d'.users.get? id = d.users.get? id := by
    refine Option.ext fun u => ?_
    rw [Table.get?_eq_some_iff, Table.get?_eq_some_iff, h.1.mem_iff]
  rw [Directory.findById, Directory.findById, hrow]

/-- Unique emails find the same user in whatever order. -/
theorem Reordered.findByEmail (h : d.Reordered d') (hd : d.EmailsUnique) (email : String) :
    d'.findByEmail email = d.findByEmail email := by
  have hd' : d'.EmailsUnique := fun u hu v hv =>
    hd u (h.1.mem_iff.1 hu) v (h.1.mem_iff.1 hv)
  refine Option.ext fun u => ?_
  rw [findByEmail_eq_some_iff hd', findByEmail_eq_some_iff hd, h.1.mem_iff]

/-- Whoever has an email and is not deleted is found by it in some order. -/
theorem exists_reordered {u : User} (hu : u ∈ d.users.rows) (hvisible : u.deletedAt = none) :
    ∃ d', d.Reordered d' ∧ d'.findByEmail u.email = some u := by
  have hperm : (u :: d.users.rows.erase u).Perm d.users.rows := (List.perm_cons_erase hu).symm
  have hkeys : ((u :: d.users.rows.erase u).map User.id).Nodup :=
    (hperm.map User.id).nodup_iff.2 d.users.nodup_keys
  refine ⟨⟨⟨_, hkeys⟩, d.roles⟩, ⟨hperm, rfl⟩, ?_⟩
  exact List.find?_cons_of_pos (by simp [User.isDeleted, hvisible])

/-- **Emails are unique exactly if the order of the rows does not matter.** -/
theorem emailsUnique_iff_reordered :
    d.EmailsUnique ↔
      ∀ d', d.Reordered d' → ∀ email, d'.findByEmail email = d.findByEmail email := by
  constructor
  · intro hd d' h
    exact h.findByEmail hd
  · intro h u hu v hv hvisible hvisible' hemail
    obtain ⟨d₁, hd₁, hfound₁⟩ := exists_reordered hu hvisible
    obtain ⟨d₂, hd₂, hfound₂⟩ := exists_reordered hv hvisible'
    have hsame : some u = some v :=
      calc some u = d₁.findByEmail u.email := hfound₁.symm
        _ = d.findByEmail u.email := h d₁ hd₁ u.email
        _ = d.findByEmail v.email := by rw [hemail]
        _ = d₂.findByEmail v.email := (h d₂ hd₂ v.email).symm
        _ = some v := hfound₂
    exact Option.some.inj hsame

end Directory

/-! ## Programs do not see the order -/

namespace World

variable {w : World} {d : Directory}

/-- The world with another directory, such as one with its rows in another order. -/
def arranged (w : World) (d : Directory) : World := { w with users := d }

theorem unlessFaulty_arranged {α : Type} (k : StoreCall) (reply : Except Fault α) (v : World) :
    (w.arranged d).unlessFaulty k (reply, v.arranged d) =
      ((w.unlessFaulty k (reply, v)).1, (w.unlessFaulty k (reply, v)).2.arranged d) := by
  have hfaults : (w.arranged d).faults k = w.faults k := rfl
  cases hk : w.faults k with
  | none => rw [unlessFaulty_of_none (hfaults.trans hk), unlessFaulty_of_none hk]
  | some f => rw [unlessFaulty_of_some (hfaults.trans hk), unlessFaulty_of_some hk]

/-- A call is answered the same in whatever order. -/
theorem answer_arranged (hw : w.users.EmailsUnique) (h : w.users.Reordered d) (c : Call) :
    (w.arranged d).answer c = ((w.answer c).1, (w.answer c).2.arranged d) := by
  cases c with
  | now => rfl
  | freshId => rfl
  | findByEmail email =>
      have hsame : d.findByEmail email = w.users.findByEmail email := h.findByEmail hw email
      simp only [answer, arranged, hsame]
      exact unlessFaulty_arranged .findByEmail _ w
  | findById id =>
      have hsame : d.findById id = w.users.findById id := h.findById id
      simp only [answer, arranged, hsame]
      exact unlessFaulty_arranged .findById _ w
  | listRoles id =>
      have hsame : d.rolesOf id = w.users.rolesOf id := congrFun h.2 id
      simp only [answer, arranged, hsame]
      exact unlessFaulty_arranged .listRoles _ w
  | findActiveSession id => exact unlessFaulty_arranged .findActiveSession _ w
  | revokeSession id stamp =>
      exact unlessFaulty_arranged .revokeSession _ { w with sessions := w.sessions.revoke id stamp }
  | createSession s =>
      have hsame : (w.arranged d).sessions.create s (w.arranged d).now =
        w.sessions.create s w.now := rfl
      simp only [answer, hsame]
      cases w.sessions.create s w.now with
      | ok r => exact unlessFaulty_arranged .createSession _ { w with sessions := r.2 }
      | error f => exact unlessFaulty_arranged .createSession _ w

end World

/-- **While emails are unique, no program sees the order of the rows.** -/
theorem Program.run_reordered {α : Type} (p : Program α) {w : World} {d : Directory}
    (hw : w.users.EmailsUnique) (h : w.users.Reordered d) :
    p.run (w.arranged d) = ((p.run w).1, (p.run w).2.arranged d) := by
  induction p generalizing w with
  | done a => rfl
  | call c next ih =>
      -- no call changes the users, so the rest begins with the same two directories
      have husers : (w.answer c).2.users = w.users := (World.frame_answer w c).1
      rw [run_call, run_call, World.answer_arranged hw h]
      exact ih _ (husers ▸ hw) (husers ▸ h)

theorem Action.run_reordered {ε α : Type} (x : Action ε α) {w : World} {d : Directory}
    (hw : w.users.EmailsUnique) (h : w.users.Reordered d) :
    x.run (w.arranged d) = ((x.run w).1, (x.run w).2.arranged d) :=
  Program.run_reordered (ExceptT.run x) hw h

/-! ## Runs -/

namespace World

variable {w : World}

theorem emailsUnique_after {e : Event} (hw : w.users.EmailsUnique) (he : ¬ e.Collides w.users) :
    (w.after e).users.EmailsUnique := by
  rcases users_after w e with hsame | hchange
  · rwa [hsame]
  · exact Directory.emailsUnique_administer hw he hchange

theorem not_emailsUnique_after {e : Event} (hw : w.users.EmailsUnique) (he : e.Collides w.users) :
    ¬ (w.after e).users.EmailsUnique := by
  obtain ⟨u, rfl, hvisible, v, hv, hother, hvisible', hemail⟩ := he
  intro hunique
  exact (Directory.emailsUnique_insert_iff hw u).1 hunique hvisible v hv hother hvisible' hemail

/-- **Emails stay unique along a run** exactly if no event of it collides. -/
theorem emailsUnique_through_iff (hw : w.users.EmailsUnique) (es : List Event) :
    (∀ before after, es = before ++ after → (w.through before).users.EmailsUnique) ↔
      ∀ before e after, es = before ++ e :: after → ¬ e.Collides (w.through before).users := by
  constructor
  · intro hunique before e after hes hcollides
    refine not_emailsUnique_after (hunique before (e :: after) hes) hcollides ?_
    have hnext := hunique (before ++ [e]) after (by rw [hes, List.append_assoc]; rfl)
    rwa [through_append] at hnext
  · intro hfree before
    -- along the first part of the run, which is taken off event by event
    induction before generalizing w es with
    | nil =>
        intro after _
        exact hw
    | cons e before ih =>
        intro after hes
        rw [List.cons_append] at hes
        have hfirst : (w.after e).users.EmailsUnique :=
          emailsUnique_after hw (hfree [] e (before ++ after) hes)
        refine ih hfirst (before ++ after) (fun b e' a hsplit => ?_) after rfl
        exact hfree (e :: b) e' a (by rw [hes, hsplit]; rfl)

/-- **When emails identify accounts.** Let any events happen to a world whose stores are empty.

* No two accounts share an email at any moment of the run, deleted ones apart, exactly if no event
  of the run stores a user whose email somebody else has at that moment.
* In the end no two accounts share an email exactly if every email has one possible answer: it
  finds the same user in whatever order the rows stand.
* And if so, neither does an authentication depend on the order, in its result or in what it
  leaves. -/
theorem emails_identify (hblank : w.IsBlank) (es : List Event) :
    ((∀ before after, es = before ++ after → (w.through before).users.EmailsUnique) ↔
      ∀ before e after, es = before ++ e :: after → ¬ e.Collides (w.through before).users) ∧
    ((w.through es).users.EmailsUnique ↔
      ∀ d, (w.through es).users.Reordered d →
        ∀ email, d.findByEmail email = (w.through es).users.findByEmail email) ∧
    ((w.through es).users.EmailsUnique → ∀ d, (w.through es).users.Reordered d →
      ∀ (s : Service) email password client,
        (s.authenticate email password client).run ((w.through es).arranged d) =
          (((s.authenticate email password client).run (w.through es)).1,
            ((s.authenticate email password client).run (w.through es)).2.arranged d)) := by
  have hempty : w.users.EmailsUnique := by
    rw [hblank.1]
    exact fun u hu => nomatch hu
  refine ⟨emailsUnique_through_iff hempty es, Directory.emailsUnique_iff_reordered, ?_⟩
  intro hunique d hd s email password client
  exact Action.run_reordered (s.authenticate email password client) hunique hd

/-- Another user with the email of the user of the small world. -/
def namesake : User := { lodger with id := .ofNat 8, passwordDigest := "other" }

/-- An account is deleted, and its email goes to another one. -/
def succession : List Event :=
  [.insertUser lodger, .softDelete lodger.id .epoch, .insertUser namesake,
    .setActive lodger.id true .epoch]

/-- Nothing collides when an email is taken over from a deleted account, so the email names the new
account in whatever order the two rows stand. -/
theorem emails_identify_succession :
    blank.IsBlank ∧ (blank.through succession).users.EmailsUnique ∧
      (blank.through succession).users.users.rows.length = 2 ∧
      ∀ d, (blank.through succession).users.Reordered d →
        d.findByEmail lodger.email = some namesake := by
  have hblank : blank.IsBlank := ⟨rfl, rfl⟩
  obtain ⟨hrun, horder, -⟩ := emails_identify hblank succession
  have hfree : ∀ before e after, succession = before ++ e :: after →
      ¬ e.Collides (blank.through before).users := by
    rintro before e after hes ⟨u, rfl, hvisible, v, hv, hother, hvisible', hemail⟩
    -- the two users that are stored come first and third
    rcases before with _ | ⟨e₁, _ | ⟨e₂, _ | ⟨e₃, _ | ⟨e₄, before⟩⟩⟩⟩
    · cases hv
    · cases hes
    · cases hes
      rcases List.mem_singleton.1 hv with rfl
      cases hvisible'
    · cases hes
    · cases before <;> cases hes
  have hunique := hrun.2 hfree succession [] (List.append_nil _).symm
  refine ⟨hblank, hunique, by decide, fun d hd => ?_⟩
  rw [horder.1 hunique d hd]
  decide

/-- **Two accounts with one email.** That emails are unique in every reachable world is not so: two
users with the same email are stored one after the other, and whom the email finds depends on the
order of their rows. -/
theorem emails_not_unique :
    (blank.through [.insertUser lodger, .insertUser namesake]).Reachable ∧
      ¬ (blank.through [.insertUser lodger, .insertUser namesake]).users.EmailsUnique ∧
      (blank.through [.insertUser lodger, .insertUser namesake]).users.findByEmail "a@b.com" =
        some lodger ∧
      ∃ d, (blank.through [.insertUser lodger, .insertUser namesake]).users.Reordered d ∧
        d.findByEmail "a@b.com" = some namesake := by
  refine ⟨⟨blank, _, ⟨rfl, rfl⟩, rfl⟩, ?_, by decide, ?_⟩
  · intro hunique
    have hsame : lodger = namesake :=
      hunique lodger (by decide) namesake (by decide) rfl rfl rfl
    exact absurd hsame (by decide)
  · exact Directory.exists_reordered (u := namesake) (by decide) rfl

end World

end SessionAuth
