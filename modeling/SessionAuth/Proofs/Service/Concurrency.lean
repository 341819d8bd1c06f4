import SessionAuth.Proofs.Service.Tasks
import SessionAuth.Proofs.Service.Writes

set_option autoImplicit false

/-! # Tasks side by side

Any number of logins, revocations and looks of the guard are carried out side by side, while users
are administered and the clock is moved: `Pool.start` sets them going. Every call is carried out at
once and as a whole, and nothing is said about the order of the calls. What can still be relied
upon, whatever the order is?

A look of the guard is decided by the worlds in which it makes its calls (`Pool.of_granted`), and
whatever was revoked, switched off or deleted by then counts: `Pool.not_granted_of_revoked` and
`Pool.not_granted_of_struck`. A login succeeds with the row that it has stored
(`Pool.stores_of_login`), so two logins never share a session. `Pool.every_order` puts this together
with what becomes of the rows.
-/

namespace SessionAuth

open Program (Leads)

namespace Pool

/-- The tasks are set going in a world. -/
def start (w : World) (tasks : Nat → Task) : Pool Outcome := ⟨w, fun i => (tasks i).program⟩

variable {w : World} {tasks : Nat → Task} {ms before : List Move} {i : Nat} {id : Uuid}

/-- What is left of a task that is over. -/
theorem leads_of_result? {o : Outcome} (h : ((start w tasks).through ms).result? i = some o) :
    Leads (tasks i).program ((start w tasks).met i ms) (.done o) := by
  have hleads := (start w tasks).leads_through i ms
  rw [Program.eq_done_of_result? h] at hleads
  exact hleads

/-! ## Logins -/

/-- A task that creates a session is then over, and its result is the reply to this. -/
theorem result?_of_creation {row : Session}
    (h : (start w tasks).Makes ms before i (.createSession row)) :
    ∃ user : User, ((start w tasks).through ms).result? i =
      some (.ofReply user
        ((Action.createSession row).run ((start w tasks).through before).world).1) := by
  obtain ⟨next, hp⟩ := exists_of_next? h.next
  have hleads := (start w tasks).leads_through i before
  rw [hp] at hleads
  obtain ⟨user, hreply⟩ := Task.of_leads_creation hleads
  refine ⟨user, ?_⟩
  have hdone : ((start w tasks).through (before ++ [.call i])).programs i =
      .done (.ofReply user
        ((Action.createSession row).run ((start w tasks).through before).world).1) := by
    rw [through_append]
    show (((start w tasks).through before).after (.call i)).programs i = _
    rw [after_call hp]
    exact (if_pos rfl).trans (hreply _)
  obtain ⟨rest, hms⟩ := h.position
  rw [← hms, result?, through_append, programs_through_of_done hdone]
  rfl

/-- A creation that finds the identifier taken is refused, and so is the login. -/
theorem result?_of_refused {row : Session}
    (h : (start w tasks).Makes ms before i (.createSession row))
    (hrefused : ((Action.createSession row).run ((start w tasks).through before).world).1 =
      .error (.database "Session already exists")) :
    ((start w tasks).through ms).result? i =
      some (.login (.error (.database "Session already exists"))) := by
  obtain ⟨user, hresult⟩ := result?_of_creation h
  rw [hresult, hrefused]
  rfl

/-- **A login that has succeeded has stored its session.** -/
theorem stores_of_login {user : User} {session : Session}
    (h : ((start w tasks).through ms).result? i = some (.login (.ok (user, session)))) :
    ∃ before, (start w tasks).Stores ms before i session := by
  obtain ⟨vs, v, row, next, hmet, hlast, hreply⟩ := Task.of_leads_login (leads_of_result? h)
  obtain ⟨before, c, hmakes, hvs, rfl⟩ := exists_makes vs hmet
  -- before the last call the task had just this creation left
  have hleft := (start w tasks).leads_through i before
  rw [hvs] at hleft
  have hp := hleft.unique hlast
  refine ⟨before, row, ⟨hmakes.position, ?_⟩, hreply⟩
  rw [next?, hp, Program.next?]

/-- **Of the creations of a session that is not there yet exactly one succeeds.** -/
theorem exists_winner {row : Session} (h : (start w tasks).Creates ms before i row)
    (hfree : w.sessions.get? row.id = none) :
    ∃ winner user session,
      ((start w tasks).through ms).result? winner = some (.login (.ok (user, session))) ∧
      session.id = row.id ∧
      ∀ j before' row', j ≠ winner → (start w tasks).Creates ms before' j row' →
        row'.id = row.id → ((start w tasks).through ms).result? j =
          some (.login (.error (.database "Session already exists"))) := by
  have hstored : ∃ p k session, (start w tasks).Stores ms p k session ∧ session.id = row.id := by
    rcases h.cases with ⟨session, hstores, hid⟩ | ⟨htaken, -⟩
    · exact ⟨before, i, session, hstores, hid⟩
    · -- somebody else has been earlier
      obtain ⟨p, k, session, ⟨row', hmakes, hreply⟩, hid⟩ := exists_stores htaken hfree
      have hms : before <+: ms := (List.prefix_append _ _).trans h.1.position
      exact ⟨p, k, session, ⟨row', hmakes.mono hms, hreply⟩, hid⟩
  obtain ⟨p, k, session, hstores, hid⟩ := hstored
  obtain ⟨row₁, hmakes, hreply⟩ := id hstores
  obtain ⟨user, hresult⟩ := result?_of_creation hmakes
  rw [hreply] at hresult
  refine ⟨k, user, session, hresult, hid, fun j before' row' hj hcreates hid' => ?_⟩
  rcases hcreates.cases with ⟨session', hstores', hsession'⟩ | ⟨-, hrefused⟩
  · exact absurd (hstores'.unique hstores (by rw [hsession', hid', hid])) hj
  · exact result?_of_refused hcreates.1 hrefused

/-- Of a session that is there already no creation succeeds. -/
theorem refused_of_stored {row : Session} (h : (start w tasks).Creates ms before i row)
    (htaken : w.sessions.get? row.id ≠ none) :
    ((start w tasks).through ms).result? i =
      some (.login (.error (.database "Session already exists"))) := by
  rcases h.cases with ⟨session, hstores, hid⟩ | ⟨-, hrefused⟩
  · obtain ⟨taken, htaken⟩ := Option.ne_none_iff_exists'.1 htaken
    have hlater : ((start w tasks).through before).world.sessions.get? row.id = some _ :=
      get?_sessions_through htaken before
    have hfree := hstores.spec.1
    rw [hid, hlater] at hfree
    cases hfree
  · exact result?_of_refused h.1 hrefused

/-! ## Looks of the guard -/

/-- A look of the guard makes the lookup that is due after the worlds that it has met. -/
theorem lookup?_of_makes {cookieName : String} {hs : Headers} {c : Call}
    (htask : tasks i = .look cookieName hs) (h : (start w tasks).Makes ms before i c) :
    Guard.lookup? cookieName hs ((start w tasks).met i before) = some c := by
  have hleads : Leads (tasks i).program _ _ := (start w tasks).leads_through i before
  rw [htask] at hleads
  obtain ⟨q, hstage, hq⟩ := Task.of_leads_look hleads
  have hnext := h.next
  rw [next?, hq, Program.next?_map] at hnext
  exact hstage.of_next? hnext

/-- **What an identity rests on**: the session was active in the first world that the look has met,
the owner was there and switched on in the second, and the roles are those of the third. -/
theorem of_granted {identity : Identity}
    (h : ((start w tasks).through ms).result? i = some (.look (.ok identity))) :
    ∃ cookieName hs id w₁ w₂ w₃ row owner, tasks i = .look cookieName hs ∧
      Guard.presented? cookieName hs = some id ∧ (start w tasks).met i ms = [w₁, w₂, w₃] ∧
      w₁.sessions.findActive id w₁.now = some row ∧ w₂.users.findById row.userId = some owner ∧
      owner.isActive = true ∧
      identity = ⟨owner.id, owner.email, Role.names (w₃.users.rolesOf owner.id), row.id⟩ := by
  obtain ⟨cookieName, hs, htask, hstage⟩ := Task.of_leads_identity (leads_of_result? h)
  generalize (start w tasks).met i ms = ws at hstage
  cases hstage with
  | asking asks next => cases next
  | granted presented found owned active =>
      exact ⟨_, _, _, _, _, _, _, _, htask, presented, rfl, found, owned, active, rfl⟩

/-- **A session that has been revoked before it is looked up lets nobody in.** -/
theorem not_granted_of_revoked {p : List Move} {j : Nat} {stamp : Instant}
    (h : (start w tasks).Makes ms before i (.findActiveSession id))
    (hrevokes : (start w tasks).Revokes before p j id stamp)
    (hrow : ((start w tasks).through p).world.sessions.get? id ≠ none) (identity : Identity) :
    ((start w tasks).through ms).result? i ≠ some (.look (.ok identity)) := by
  intro hgranted
  obtain ⟨cookieName, hs, id', w₁, w₂, w₃, row, owner, htask, hid', hmet, hfound, -⟩ :=
    of_granted hgranted
  obtain ⟨hnone, hid⟩ := Guard.of_lookup?_findActiveSession (lookup?_of_makes htask h)
  cases hid'.symm.trans hid
  -- the first world that the look has met is the one of this lookup
  obtain ⟨vs, hworld⟩ := h.exists_met
  rw [hmet, hnone] at hworld
  obtain ⟨rfl, -⟩ := List.cons.inj hworld
  rw [findActive_of_revokes hrevokes hrow] at hfound
  cases hfound

/-- **A user who has been switched off or deleted before being looked up is not let in.** -/
theorem not_granted_of_struck {between : List Move} {e : Event} {he : e.IsOutside} {owner : Uuid}
    (h : (start w tasks).Makes ms (before ++ .outside e he :: between) i (.findById owner))
    (hstrikes : e.Strikes owner)
    (hbetween : ∀ e' he', Move.outside e' he' ∈ between → ¬ e'.Restores owner)
    (identity : Identity) :
    ((start w tasks).through ms).result? i ≠ some (.look (.ok identity)) := by
  intro hgranted
  obtain ⟨cookieName, hs, id', w₁, w₂, w₃, row, u, htask, hid', hmet, hfound, howned, hactive, -⟩ :=
    of_granted hgranted
  obtain ⟨v, id, row', hone, hid, hfound', rfl⟩ :=
    Guard.of_lookup?_findById (lookup?_of_makes htask h)
  cases hid'.symm.trans hid
  -- the second world that the look has met is the one of this lookup
  obtain ⟨vs, hworld⟩ := h.exists_met
  rw [hmet, hone] at hworld
  obtain ⟨rfl, hrest⟩ := List.cons.inj hworld
  obtain ⟨rfl, -⟩ := List.cons.inj hrest
  cases hfound.symm.trans hfound'
  have hinactive := bars_of_strikes hstrikes hbetween u howned
  rw [hactive] at hinactive
  cases hinactive

/-- **Whoever is granted an identity** was asked for step by step: the session was active when it
was looked up, then its owner was there and switched on, and then the roles were read. -/
theorem granted_stepwise {identity : Identity}
    (h : ((start w tasks).through ms).result? i = some (.look (.ok identity))) :
    ∃ cookieName hs id row owner p₁ p₂ p₃,
      tasks i = .look cookieName hs ∧ Guard.presented? cookieName hs = some id ∧
      (start w tasks).Makes p₂ p₁ i (.findActiveSession id) ∧
      ((start w tasks).through p₁).world.sessions.findActive id
        ((start w tasks).through p₁).world.now = some row ∧
      (start w tasks).Makes p₃ p₂ i (.findById row.userId) ∧
      ((start w tasks).through p₂).world.users.findById row.userId = some owner ∧
      owner.isActive = true ∧
      (start w tasks).Makes ms p₃ i (.listRoles owner.id) ∧
      identity = ⟨owner.id, owner.email,
        Role.names (((start w tasks).through p₃).world.users.rolesOf owner.id), row.id⟩ := by
  obtain ⟨cookieName, hs, id, w₁, w₂, w₃, row, owner, htask, hid, hmet, hfound, howned, hactive,
    rfl⟩ := of_granted h
  -- from the last call back to the first
  obtain ⟨p₃, c₃, hmakes₃, hmet₃, rfl⟩ := exists_makes [w₁, w₂] hmet
  obtain ⟨p₂, c₂, hmakes₂, hmet₂, rfl⟩ := exists_makes [w₁] hmet₃
  obtain ⟨p₁, c₁, hmakes₁, hmet₁, rfl⟩ := exists_makes [] hmet₂
  have hc₁ : some c₁ = some (.findActiveSession id) := by
    rw [← lookup?_of_makes htask hmakes₁, hmet₁, Guard.lookup?, hid, Option.map_some]
  have hc₂ : some c₂ = some (.findById row.userId) := by
    rw [← lookup?_of_makes htask hmakes₂, hmet₂]
    simp [Guard.lookup?, hid, hfound]
  have hc₃ : some c₃ = some (.listRoles owner.id) := by
    rw [← lookup?_of_makes htask hmakes₃, hmet₃]
    simp [Guard.lookup?, hid, hfound, howned]
  cases hc₁
  cases hc₂
  cases hc₃
  exact ⟨cookieName, hs, id, row, owner, p₁, p₂, p₃, htask, hid, hmakes₁, hfound, hmakes₂, howned,
    hactive, hmakes₃, rfl⟩

/-! ## Every order -/

/-- Whatever tasks are set going in whatever world, in whatever order their calls are carried out
and whatever happens to users, clock and stores in between:

* whoever presents a session that is looked up after it has been revoked is not let in;
* neither is whoever presents a session whose owner is looked up after having been switched off or
  deleted, unless somebody was let in again under this identifier in between;
* a login that has succeeded has exactly one row in the ledger, and no other login has it; of the
  creations under an identifier that is free exactly one succeeds, and all others are told so; under
  one that is taken none does;
* a stored row takes the stamp of the first revocation that is written for it, if it has none yet,
  and nothing else about it changes;
* whoever is granted an identity has presented a session that was active at the moment when it was
  looked up, and its owner was there and switched on when he was looked up after that. -/
theorem every_order (w : World) (tasks : Nat → Task) (ms : List Move) :
    let σ := start w tasks
    let final := (σ.through ms).world
    (∀ i before id p j stamp identity, σ.Makes ms before i (.findActiveSession id) →
      σ.Revokes before p j id stamp → (σ.through p).world.sessions.get? id ≠ none →
        (σ.through ms).result? i ≠ some (.look (.ok identity))) ∧
    (∀ i before e he between owner identity,
      σ.Makes ms (before ++ .outside e he :: between) i (.findById owner) → e.Strikes owner →
      (∀ e' he', Move.outside e' he' ∈ between → ¬ e'.Restores owner) →
        (σ.through ms).result? i ≠ some (.look (.ok identity))) ∧
    ((∀ i user session, (σ.through ms).result? i = some (.login (.ok (user, session))) →
        (∃ stamp, final.sessions.rows.filter (fun row => row.id = session.id) =
          [session.stamped stamp]) ∧
        ∀ j user' session', (σ.through ms).result? j = some (.login (.ok (user', session'))) →
          session'.id = session.id → j = i) ∧
      ∀ i before row, σ.Creates ms before i row →
        (w.sessions.get? row.id = none →
          ∃ winner user session,
            (σ.through ms).result? winner = some (.login (.ok (user, session))) ∧
            session.id = row.id ∧
            ∀ j before' row', j ≠ winner → σ.Creates ms before' j row' → row'.id = row.id →
              (σ.through ms).result? j =
                some (.login (.error (.database "Session already exists")))) ∧
        (w.sessions.get? row.id ≠ none →
          (σ.through ms).result? i =
            some (.login (.error (.database "Session already exists"))))) ∧
    (∀ before after id row, ms = before ++ after →
      (σ.through before).world.sessions.get? id = some row →
        ∃ stamp, final.sessions.get? id =
            some { row with revokedAt := row.revokedAt.or stamp } ∧
          ∀ t, stamp = some t ↔ ∃ p i, (σ.through before).FirstRevokes after p i id t) ∧
    (∀ i identity, (σ.through ms).result? i = some (.look (.ok identity)) →
      ∃ cookieName hs id row owner p₁ p₂ p₃,
        tasks i = .look cookieName hs ∧ Guard.presented? cookieName hs = some id ∧
        σ.Makes p₂ p₁ i (.findActiveSession id) ∧
        (σ.through p₁).world.sessions.get? id = some row ∧ row.revokedAt = none ∧
        (σ.through p₁).world.now < row.expiresAt ∧
        σ.Makes p₃ p₂ i (.findById row.userId) ∧
        (σ.through p₂).world.users.users.get? row.userId = some owner ∧
        owner.deletedAt = none ∧ owner.isActive = true ∧
        σ.Makes ms p₃ i (.listRoles owner.id) ∧
        identity = ⟨owner.id, owner.email,
          Role.names ((σ.through p₃).world.users.rolesOf owner.id), row.id⟩) := by
  intro σ final
  refine ⟨?_, ?_, ⟨?_, ?_⟩, ?_, ?_⟩
  · intro i before id p j stamp identity hlookup hrevokes hrow
    exact not_granted_of_revoked hlookup hrevokes hrow identity
  · intro i before e he between owner identity hlookup hstrikes hbetween
    exact not_granted_of_struck hlookup hstrikes hbetween identity
  · intro i user session hlogin
    obtain ⟨before, hstores⟩ := stores_of_login hlogin
    obtain ⟨stamp, hfinal⟩ := hstores.get?_later
    refine ⟨⟨stamp, Table.filter_key_of_get? hfinal⟩, ?_⟩
    intro j user' session' hlogin' hid
    obtain ⟨before', hstores'⟩ := stores_of_login hlogin'
    exact hstores'.unique hstores hid
  · intro i before row hcreates
    exact ⟨exists_winner hcreates, refused_of_stored hcreates⟩
  · rintro before after id row rfl hrow
    exact get?_through_stamped hrow
  · intro i identity hgranted
    obtain ⟨cookieName, hs, id, row, owner, p₁, p₂, p₃, htask, hid, hmakes₁, hfound, hmakes₂,
      howned, hactive, hmakes₃, hidentity⟩ := granted_stepwise hgranted
    obtain ⟨hrow, hunrevoked, hunexpired⟩ := Ledger.findActive_eq_some_iff.1 hfound
    obtain ⟨hstored, hundeleted⟩ := Directory.findById_eq_some_iff.1 howned
    exact ⟨cookieName, hs, id, row, owner, p₁, p₂, p₃, htask, hid, hmakes₁, hrow, hunrevoked,
      hunexpired, hmakes₂, hstored, by simpa [User.isDeleted] using hundeleted, hactive, hmakes₃,
      hidentity⟩

/-- The user of the small world comes back while the session is being revoked. -/
def lookBesideRevocation : Nat → Task
  | 0 => .look "session_id" [⟨"Cookie", Text.utf8
      "session_id=00000000-0000-0000-0000-000000000005"⟩]
  | _ => .revocation World.stay.id

-- it is the lookup of the session that has to come after the revocation, not only the rest
example : ((start World.small lookBesideRevocation).through
    [.call 1, .call 1, .call 0, .call 0]).result? 0 = some (.look (.error .unauthorized)) := by
  rfl

example : ((start World.small lookBesideRevocation).through
    [.call 1, .call 0, .call 1, .call 0, .call 0]).result? 0 =
      some (.look (.ok ⟨World.lodger.id, "a@b.com", ["user"], World.stay.id⟩)) := by
  rfl

end Pool

end SessionAuth
