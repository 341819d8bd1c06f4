import SessionAuth.Proofs.Service.Interleaving
import SessionAuth.Proofs.Service.Verdict
import SessionAuth.Service.Authentication

set_option autoImplicit false

/-! # The service's programs, call by call

What can be left of a login, of a revocation or of a look of the guard, when each of its calls has
been answered in some world? The worlds need not have anything to do with each other.

A look of the guard is at one of three stages (`Guard.Stage`): a lookup is yet to be made, and the
worlds so far determine which one (`Guard.lookup?`), or an identity has been granted, or it has been
refused. A login stores at most one session, as the last thing it does, and its result is the reply
to that (`Service.Issues`). The other two create no session.
-/

namespace SessionAuth

open Program (Leads CreatesNothing)

/-! ## Actions that begin with a call -/

namespace Action

variable {ε α β : Type}

/-- An action that begins with a lookup is to make this call, or it has made it in some world, and
then it has broken off or goes on with what was found there. -/
theorem of_leads_lookup_bind {x : Action ε α} {f : α → Action ε β} {c : Call}
    {reply : c.Reply → Except ε α} {look : World → α} {ws : List World} {q : Program (Except ε β)}
    (hx : ExceptT.run x = .call c fun r => .done (reply r))
    (hlook : ∀ {w v a}, x.run w = (.ok a, v) → a = look w)
    (h : Leads (ExceptT.run (x >>= f)) ws q) :
    (ws = [] ∧ q.next? = some c) ∨
      ∃ w vs, ws = w :: vs ∧
        ((∃ e, q = .done (.error e)) ∨ Leads (ExceptT.run (f (look w))) vs q) := by
  have hbind : ExceptT.run (x >>= f) = .call c fun r => ExceptT.bindCont f (reply r) := by
    show ExceptT.run x >>= ExceptT.bindCont f = _
    rw [hx]
    rfl
  have hrun : ∀ w, (x.run w).1 = reply (w.answer c).1 := by
    intro w
    show (Program.run (ExceptT.run x) w).1 = _
    rw [hx]
    rfl
  rw [hbind] at h
  cases h with
  | here => exact Or.inl ⟨rfl, rfl⟩
  | @call _ _ w vs _ rest =>
      replace rest : Leads (ExceptT.bindCont f (reply (w.answer c).1)) vs q := rest
      rw [← hrun] at rest
      refine Or.inr ⟨w, vs, rfl, ?_⟩
      cases hfound : (x.run w).1 with
      | ok a =>
          rw [hfound, hlook (Prod.ext hfound rfl)] at rest
          exact Or.inr rest
      | error e =>
          rw [hfound] at rest
          exact Or.inl ⟨e, (Program.of_leads_done rest).2⟩

/-- An action that an identity or the like is required for breaks off without one. -/
theorem of_leads_require_bind {o : Option α} {f : α → Action Fault β} {ws : List World}
    {q : Program (Except Fault β)} (h : Leads (ExceptT.run (Guard.require o >>= f)) ws q) :
    q = .done (.error .unauthorized) ∨ ∃ a, o = some a ∧ Leads (ExceptT.run (f a)) ws q := by
  cases o with
  | none => exact Or.inl (Program.of_leads_done h).2
  | some a => exact Or.inr ⟨a, rfl, h⟩

theorem createsNothing_bind {x : Action ε α} {f : α → Action ε β}
    (hx : (ExceptT.run x).CreatesNothing) (hf : ∀ a, (ExceptT.run (f a)).CreatesNothing) :
    (ExceptT.run (x >>= f)).CreatesNothing := by
  refine CreatesNothing.bind hx fun r => ?_
  cases r with
  | ok a => exact hf a
  | error e => trivial

end Action

/-! ## The guard -/

namespace Guard

variable {name : String} {hs : Headers} {ws : List World} {q : Program (Except Fault Identity)}

/-- What a look of the guard asks for next when its calls were answered in these worlds: first for
the session, then for the owner of the one that was found, and then for the roles. -/
def lookup? (name : String) (hs : Headers) : List World → Option Call
  | [] => (presented? name hs).map .findActiveSession
  | [w₁] => do
    let id ← presented? name hs
    let row ← w₁.sessions.findActive id w₁.now
    some (.findById row.userId)
  | [w₁, w₂] => do
    let id ← presented? name hs
    let row ← w₁.sessions.findActive id w₁.now
    let owner ← w₂.users.findById row.userId
    some (.listRoles owner.id)
  | _ => none

/-- Only the first lookup is one of a session. -/
theorem of_lookup?_findActiveSession {id : Uuid}
    (h : lookup? name hs ws = some (.findActiveSession id)) :
    ws = [] ∧ presented? name hs = some id := by
  match ws with
  | [] => simpa [lookup?] using h
  | [w₁] => simp [lookup?, Option.bind_eq_some_iff] at h
  | [w₁, w₂] => simp [lookup?, Option.bind_eq_some_iff] at h
  | w₁ :: w₂ :: w₃ :: ws => cases h

/-- Only the second lookup is one of a user. -/
theorem of_lookup?_findById {owner : Uuid} (h : lookup? name hs ws = some (.findById owner)) :
    ∃ w₁ id row, ws = [w₁] ∧ presented? name hs = some id ∧
      w₁.sessions.findActive id w₁.now = some row ∧ row.userId = owner := by
  match ws with
  | [] => simp [lookup?] at h
  | [w₁] =>
      simp only [lookup?, bind, Option.bind_eq_some_iff, Option.some.injEq] at h
      obtain ⟨id, hid, row, hrow, howner⟩ := h
      cases howner
      exact ⟨w₁, id, row, rfl, hid, hrow, rfl⟩
  | [w₁, w₂] => simp [lookup?, Option.bind_eq_some_iff] at h
  | w₁ :: w₂ :: w₃ :: ws => cases h

theorem lookup?_ne_createSession (row : Session) :
    lookup? name hs ws ≠ some (.createSession row) := by
  match ws with
  | [] => simp [lookup?]
  | [w₁] => simp [lookup?, Option.bind_eq_some_iff]
  | [w₁, w₂] => simp [lookup?, Option.bind_eq_some_iff]
  | w₁ :: w₂ :: w₃ :: ws => nofun

/-- How far a look of the guard has got by calls that have been answered in some worlds, and what
it has left to do. -/
inductive Stage (name : String) (hs : Headers) :
    List World → Program (Except Fault Identity) → Prop
  /-- There is something to be asked for yet. -/
  | asking {ws : List World} {q : Program (Except Fault Identity)} {c : Call}
      (asks : lookup? name hs ws = some c) (next : q.next? = some c) : Stage name hs ws q
  /-- The session was active in the first world and its owner switched on in the second, and with
  the roles of the third one an identity has been granted. -/
  | granted {w₁ w₂ w₃ : World} {id : Uuid} {row : Session} {owner : User}
      (presented : presented? name hs = some id)
      (found : w₁.sessions.findActive id w₁.now = some row)
      (owned : w₂.users.findById row.userId = some owner) (active : owner.isActive = true) :
      Stage name hs [w₁, w₂, w₃] <|
        .done (.ok ⟨owner.id, owner.email, Role.names (w₃.users.rolesOf owner.id), row.id⟩)
  | refused (ws : List World) (f : Fault) : Stage name hs ws (.done (.error f))

/-- **A look of the guard is always at one of the stages.** -/
theorem stage_of_leads (h : Leads (ExceptT.run (authenticate name hs)) ws q) :
    Stage name hs ws q := by
  rcases Action.of_leads_require_bind h with rfl | ⟨id, hid, h⟩
  · exact .refused _ _
  -- the session
  rcases Action.of_leads_lookup_bind (x := Action.findActiveSession id) rfl
    (fun hrun => (Action.of_run_findActiveSession_eq_ok hrun).2.1) h with
    ⟨rfl, hnext⟩ | ⟨w₁, vs, rfl, ⟨f, rfl⟩ | h⟩
  · exact .asking (by rw [lookup?, hid, Option.map_some]) hnext
  · exact .refused _ f
  rcases Action.of_leads_require_bind h with rfl | ⟨row, hrow, h⟩
  · exact .refused _ _
  -- its owner
  rcases Action.of_leads_lookup_bind (x := Action.findById row.userId) rfl
    (fun hrun => (Action.of_run_findById_eq_ok hrun).2.1) h with
    ⟨rfl, hnext⟩ | ⟨w₂, vs, rfl, ⟨f, rfl⟩ | h⟩
  · exact .asking (by simp [lookup?, hid, hrow]) hnext
  · exact .refused _ f
  rcases Action.of_leads_require_bind h with rfl | ⟨owner, hactive, h⟩
  · exact .refused _ _
  obtain ⟨howner, hon⟩ := Option.filter_eq_some_iff.1 hactive
  -- and the roles
  rcases Action.of_leads_lookup_bind (x := Action.listRoles owner.id) rfl
    (fun hrun => (Action.of_run_listRoles_eq_ok hrun).2.1) h with
    ⟨rfl, hnext⟩ | ⟨w₃, vs, rfl, ⟨f, rfl⟩ | h⟩
  · exact .asking (by simp [lookup?, hid, hrow, howner]) hnext
  · exact .refused _ f
  obtain ⟨rfl, rfl⟩ := Program.of_leads_done h
  exact .granted hid hrow howner hon

/-- A look of the guard that is not over makes the lookup that is due. -/
theorem Stage.of_next? {c : Call} (h : Stage name hs ws q) (hc : q.next? = some c) :
    lookup? name hs ws = some c := by
  cases h with
  | asking asks next => rw [asks, ← next, hc]
  | granted presented found owned active => cases hc
  | refused ws f => cases hc

end Guard

/-! ## Logging in -/

namespace Service

/-- The program fails, or the last thing it does is to store one new session, and then it ends with
the reply to this. -/
inductive Issues : Program (Except Fault (User × Session)) → Prop
  | fail (f : Fault) : Issues (.done (.error f))
  | call {c : Call} {next : c.Reply → Program (Except Fault (User × Session))}
      (creates : ∀ s, c ≠ .createSession s) (rest : ∀ reply, Issues (next reply)) :
      Issues (.call c next)
  | store (user : User) (row : Session) :
      Issues (.call (.createSession row) fun reply =>
        .done ((reply.mapError Fault.toInternal).map fun stored => (user, stored)))

namespace Issues

/-- What creates no session may come first. -/
theorem bind {α : Type} {x : Action Fault α} {f : α → Action Fault (User × Session)}
    (hx : (ExceptT.run x).CreatesNothing) (hf : ∀ a, Issues (ExceptT.run (f a))) :
    Issues (ExceptT.run (x >>= f)) := by
  show Issues (ExceptT.run x >>= ExceptT.bindCont f)
  generalize ExceptT.run x = p at hx
  induction p with
  | done r =>
      cases r with
      | ok a => exact hf a
      | error f => exact .fail f
  | call c next ih => exact .call hx.1 fun reply => ih reply (hx.2 reply)

/-- Later on, such a program is still one, or it has stored its session and is over. -/
theorem of_leads {p q : Program (Except Fault (User × Session))} {ws : List World}
    (hp : Issues p) (h : Leads p ws q) :
    Issues q ∨ ∃ vs w user row next, ws = vs ++ [w] ∧
      Leads p vs (.call (.createSession row) next) ∧
      q = .done (((Action.createSession row).run w).1.mapError Fault.toInternal |>.map
        fun stored => (user, stored)) := by
  induction h with
  | here p => exact Or.inl hp
  | @call c next w ws q rest ih =>
      cases hp with
      | call creates hnext =>
          rcases ih (hnext _) with hq | ⟨vs, v, user, row, next', rfl, hleads, hq⟩
          · exact Or.inl hq
          · exact Or.inr ⟨w :: vs, v, user, row, next', rfl, .call hleads, hq⟩
      | store user row =>
          -- nothing is left to do after the session has been stored
          obtain ⟨rfl, rfl⟩ := Program.of_leads_done rest
          exact Or.inr ⟨[], w, user, row, _, rfl, .here _, rfl⟩

end Issues

theorem checkCredentials_createsNothing (s : Service) (email password : String) :
    (ExceptT.run (s.checkCredentials email password)).CreatesNothing := by
  refine Action.createsNothing_bind ⟨fun _ h => (by cases h), fun _ => trivial⟩ fun found => ?_
  cases found with
  | none => trivial
  | some u =>
      dsimp only
      split
      · trivial
      · trivial

theorem revoke_createsNothing (id : Uuid) : (ExceptT.run (revoke id)).CreatesNothing := by
  refine Action.createsNothing_bind ⟨fun _ h => (by cases h), fun _ => trivial⟩ fun now => ?_
  exact ⟨fun _ h => (by cases h), fun _ => trivial⟩

/-- **A login stores at most one session, as the last thing it does.** -/
theorem authenticate_issues (s : Service) (email password : String) (client : Metadata) :
    Issues (ExceptT.run (s.authenticate email password client)) := by
  unfold authenticate
  dsimp only
  by_cases hblank : Text.trimmed email = "" ∨ password = ""
  · rw [if_pos hblank]
    exact .fail _
  · rw [if_neg hblank]
    refine .bind (s.checkCredentials_createsNothing _ _) fun user => ?_
    refine .bind ⟨fun _ h => (by cases h), fun _ => trivial⟩ fun roles => ?_
    rw [issueSession, bind_assoc]
    refine .bind ⟨fun _ h => (by cases h), fun _ => trivial⟩ fun now => ?_
    cases now.add? s.sessionTtl with
    | none => exact .fail _
    | some expiry =>
        dsimp only
        rw [bind_assoc]
        refine .bind ⟨fun _ h => (by cases h), fun _ => trivial⟩ fun id => ?_
        -- the last call: its reply is renamed and completed by the user
        have hlast : ∀ (row : Session) (u : User),
            ExceptT.run ((Action.createSession row).mapError Fault.toInternal >>= fun session =>
              pure (u, session)) = .call (.createSession row) fun reply =>
                .done ((reply.mapError Fault.toInternal).map fun stored => (u, stored)) := by
          intro row u
          refine congrArg (Program.call (.createSession row)) (funext fun reply => ?_)
          cases reply with
          | ok stored => rfl
          | error f => rfl
        rw [hlast]
        exact .store _ _

end Service

/-! ## Tasks -/

/-- What clients ask of the service. -/
inductive Task where
  | login (s : Service) (email password : String) (client : Metadata)
  | revocation (id : Uuid)
  /-- A look of the guard at the headers of a request. -/
  | look (cookieName : String) (hs : Headers)

/-- What a client is told. -/
inductive Outcome where
  | login (result : Except Fault (User × Session))
  | revocation (result : Except Fault Unit)
  | look (result : Except Fault Identity)

/-- What a user who logs in is told once the store has replied to the new session. -/
def Outcome.ofReply (user : User) (reply : Except Fault Session) : Outcome :=
  .login ((reply.mapError Fault.toInternal).map fun stored => (user, stored))

/-- How the service goes about a task. -/
def Task.program : Task → Program Outcome
  | .login s email password client =>
    Outcome.login <$> ExceptT.run (s.authenticate email password client)
  | .revocation id => Outcome.revocation <$> ExceptT.run (Service.revoke id)
  | .look cookieName hs => Outcome.look <$> ExceptT.run (Guard.authenticate cookieName hs)

namespace Task

variable {t : Task} {ws : List World}

/-- A look of the guard is at one of its stages. -/
theorem of_leads_look {cookieName : String} {hs : Headers} {q : Program Outcome}
    (h : Leads (look cookieName hs).program ws q) :
    ∃ q', Guard.Stage cookieName hs ws q' ∧ q = Outcome.look <$> q' := by
  obtain ⟨q', hq', rfl⟩ := Program.of_leads_map h
  exact ⟨q', Guard.stage_of_leads hq', rfl⟩

/-- Only a look of the guard can end with an identity. -/
theorem of_leads_identity {i : Identity} (h : Leads t.program ws (.done (.look (.ok i)))) :
    ∃ cookieName hs, t = .look cookieName hs ∧
      Guard.Stage cookieName hs ws (.done (.ok i)) := by
  cases t with
  | login s email password client =>
      obtain ⟨r, -, heq⟩ := Program.of_leads_map_done h
      cases heq
  | revocation id =>
      obtain ⟨r, -, heq⟩ := Program.of_leads_map_done h
      cases heq
  | look cookieName hs =>
      obtain ⟨r, hr, heq⟩ := Program.of_leads_map_done h
      cases heq
      exact ⟨cookieName, hs, rfl, Guard.stage_of_leads hr⟩

/-- Only a login creates a session, and with the reply to this it is over. -/
theorem of_leads_creation {row : Session}
    {next : (Call.createSession row).Reply → Program Outcome}
    (h : Leads t.program ws (.call (.createSession row) next)) :
    ∃ user : User, ∀ w : World,
      next (w.answer (.createSession row)).1 =
        .done (.ofReply user ((Action.createSession row).run w).1) := by
  cases t with
  | login s email password client =>
      obtain ⟨q', hq', heq⟩ := Program.of_leads_map h
      rcases (s.authenticate_issues email password client).of_leads hq' with
        hissues | ⟨vs, v, user, row', next', -, -, rfl⟩
      · cases hissues with
        | fail f => cases heq
        | call creates hnext =>
            cases heq
            exact absurd rfl (creates row)
        | store user row =>
            cases heq
            exact ⟨user, fun w => rfl⟩
      · cases heq
  | revocation id =>
      obtain ⟨q', hq', heq⟩ := Program.of_leads_map h
      have hnothing := (Service.revoke_createsNothing id).of_leads hq'
      cases q' with
      | done r => cases heq
      | call c next' =>
          cases heq
          exact absurd rfl (hnothing.1 row)
  | look cookieName hs =>
      obtain ⟨q', hstage, heq⟩ := of_leads_look h
      have hnext : q'.next? = some (.createSession row) := by
        rw [← Program.next?_map Outcome.look, ← heq]
        rfl
      exact absurd (hstage.of_next? hnext) (Guard.lookup?_ne_createSession row)

/-- A login that has succeeded has created its session by its last call. -/
theorem of_leads_login {user : User} {session : Session}
    (h : Leads t.program ws (.done (.login (.ok (user, session))))) :
    ∃ vs w row next, ws = vs ++ [w] ∧ Leads t.program vs (.call (.createSession row) next) ∧
      ((Action.createSession row).run w).1 = .ok session := by
  cases t with
  | login s email password client =>
      obtain ⟨r, hr, heq⟩ := Program.of_leads_map_done h
      cases heq
      rcases (s.authenticate_issues email password client).of_leads hr with
        hissues | ⟨vs, w, u, row, next, hws, hleads, hdone⟩
      · cases hissues
      · cases hreply : ((Action.createSession row).run w).1 with
        | error f =>
            rw [hreply] at hdone
            cases hdone
        | ok stored =>
            rw [hreply] at hdone
            cases hdone
            exact ⟨vs, w, row, _, hws, hleads.map Outcome.login, hreply⟩
  | revocation id =>
      obtain ⟨r, -, heq⟩ := Program.of_leads_map_done h
      cases heq
  | look cookieName hs =>
      obtain ⟨r, -, heq⟩ := Program.of_leads_map_done h
      cases heq

end Task

end SessionAuth
