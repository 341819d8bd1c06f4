import Mathlib.Data.Option.Basic
import Mathlib.Data.Option.Defs
import SessionAuth.Proofs.Api.Attempt
import SessionAuth.Proofs.Api.Gate

set_option autoImplicit false

/-! # What clients are not told

A fault of the machinery carries a cause that is meant for the operator. Two faults are *alike* if
a client is answered the same, and two worlds are alike if they differ in nothing but in faults
that are alike. An action is *discreet* if it makes alike results and alike worlds out of alike
worlds. Every call is discreet, and so is every action that is put together from discreet parts
(`Action.Discreet.bind`), so that the service as a whole is (`Service.respond_discreet`). Its
answers are not only alike but the same: `Service.causes_hidden`.
-/

namespace SessionAuth

/-! ## Faults, worlds and results that are alike -/

/-- Clients cannot tell the faults apart. -/
def Fault.Alike (f g : Fault) : Prop := Response.ofFault f = Response.ofFault g

namespace Fault

theorem Alike.refl (f : Fault) : f.Alike f := rfl

/-- The faults of the machinery are all alike. -/
theorem BlamesMachinery.alike {f g : Fault} (hf : f.BlamesMachinery) (hg : g.BlamesMachinery) :
    f.Alike g := by
  obtain ⟨cause, rfl | rfl⟩ := hf <;> obtain ⟨cause', rfl | rfl⟩ := hg <;> rfl

/-- So are all faults that are reported as faults of the machinery. -/
theorem alike_toInternal (f g : Fault) : f.toInternal.Alike g.toInternal := by
  have hblames : ∀ f : Fault, f.toInternal.BlamesMachinery := by
    intro f
    cases f with
    | database cause => exact ⟨cause, .inl rfl⟩
    | internal cause => exact ⟨cause, .inr rfl⟩
    | invalidCredentials => exact ⟨_, .inr rfl⟩
    | unauthorized => exact ⟨_, .inr rfl⟩
    | invalidRequest detail => exact ⟨_, .inr rfl⟩
  exact (hblames f).alike (hblames g)

end Fault

/-- Clients cannot tell the failures apart. -/
inductive Failure.Alike : Failure → Failure → Prop where
  | fault {f g : Fault} (h : f.Alike g) : Alike (.fault f) (.fault g)
  | overflow (o : Overflow) : Alike (.overflow o) (.overflow o)

theorem Failure.Alike.refl (f : Failure) : f.Alike f := by
  cases f with
  | fault f => exact .fault (.refl f)
  | overflow o => exact .overflow o

/-- The worlds differ in nothing but in faults that are alike; the same calls fail in both. -/
structure World.Alike (v w : World) : Prop where
  users : v.users = w.users
  sessions : v.sessions = w.sessions
  now : v.now = w.now
  ids : v.ids = w.ids
  faults : ∀ k, Option.Rel Fault.Alike (v.faults k) (w.faults k)

/-- Both results are the same success, or they are errors in the relation. -/
inductive SameUpTo {ε α : Type} (R : ε → ε → Prop) : Except ε α → Except ε α → Prop where
  | ok (a : α) : SameUpTo R (.ok a) (.ok a)
  | error {e e' : ε} (h : R e e') : SameUpTo R (.error e) (.error e')

theorem SameUpTo.eq {ε α : Type} {a b : Except ε α} (h : SameUpTo Eq a b) : a = b := by
  cases h with
  | ok a => rfl
  | error h => rw [h]

namespace Action

variable {ε δ α β : Type} {R : ε → ε → Prop} {S : δ → δ → Prop}

/-- In worlds that are alike the action has results that are alike, and leads to worlds that are
alike. -/
def Discreet (R : ε → ε → Prop) (x : Action ε α) : Prop :=
  ∀ v w : World, v.Alike w → SameUpTo R (x.run v).1 (x.run w).1 ∧ (x.run v).2.Alike (x.run w).2

namespace Discreet

/-! ## Discreet parts -/

theorem pure (a : α) : Discreet R (Pure.pure a : Action ε α) := fun _ _ h => ⟨.ok a, h⟩

theorem throw {e : ε} (he : R e e) : Discreet R (MonadExcept.throw e : Action ε α) :=
  fun _ _ h => ⟨.error he, h⟩

theorem ofExcept (hR : ∀ e, R e e) (r : Except ε α) : Discreet R (ofExcept r) := by
  cases r with
  | ok a => exact .pure a
  | error e => exact .throw (hR e)

theorem now : Discreet R (now : Action ε Instant) := by
  intro v w h
  rw [run_now, run_now, h.now]
  exact ⟨.ok _, h⟩

theorem freshId : Discreet R (freshId : Action ε Uuid) := by
  intro v w h
  rw [run_freshId, run_freshId, h.ids]
  exact ⟨.ok _, ⟨h.users, h.sessions, h.now, rfl, h.faults⟩⟩

theorem mapError {x : Action ε α} (hx : x.Discreet R) {f : ε → δ}
    (hf : ∀ e e', R e e' → S (f e) (f e')) : (x.mapError f).Discreet S := by
  intro v w h
  obtain ⟨hsame, halike⟩ := hx v w h
  rw [run_mapError, run_mapError]
  refine ⟨?_, halike⟩
  rcases hv : x.run v with ⟨a, v'⟩
  rcases hw : x.run w with ⟨b, w'⟩
  rw [hv, hw] at hsame
  cases hsame with
  | ok a => exact .ok a
  | error he => exact .error (hf _ _ he)

/-- **What is put together from discreet parts is discreet.** -/
theorem bind {x : Action ε α} {f : α → Action ε β} (hx : x.Discreet R)
    (hf : ∀ a, (f a).Discreet R) : (x >>= f).Discreet R := by
  intro v w h
  obtain ⟨hsame, halike⟩ := hx v w h
  rcases hv : x.run v with ⟨a, v'⟩
  rcases hw : x.run w with ⟨b, w'⟩
  rw [hv, hw] at hsame halike
  cases hsame with
  | ok a =>
      rw [run_bind_of_ok hv, run_bind_of_ok hw]
      exact hf a v' w' halike
  | error he =>
      rw [run_bind_of_error hv, run_bind_of_error hw]
      exact ⟨.error he, halike⟩

theorem map {x : Action ε α} (hx : x.Discreet R) (f : α → β) : (f <$> x).Discreet R := by
  rw [map_eq_pure_bind]
  exact .bind hx fun a => .pure (f a)

/-! ## Store calls -/

/-- A store call is discreet if it is while it does not fail. -/
theorem of_unlessFaulty {x : Action Fault α} {k : StoreCall}
    {healthy : World → Except Fault α × World}
    (hrun : ∀ w, x.run w = w.unlessFaulty k (healthy w))
    (h : ∀ v w : World, v.Alike w → SameUpTo Fault.Alike (healthy v).1 (healthy w).1 ∧
      (healthy v).2.Alike (healthy w).2) : x.Discreet Fault.Alike := by
  intro v w halike
  rw [hrun, hrun]
  -- the call fails in both worlds or in none
  have hfaults := halike.faults k
  cases hv : v.faults k with
  | none =>
      cases hw : w.faults k with
      | none =>
          rw [World.unlessFaulty_of_none hv, World.unlessFaulty_of_none hw]
          exact h v w halike
      | some g =>
          rw [hv, hw] at hfaults
          cases hfaults
  | some f =>
      cases hw : w.faults k with
      | none =>
          rw [hv, hw] at hfaults
          cases hfaults
      | some g =>
          rw [hv, hw] at hfaults
          rw [World.unlessFaulty_of_some hv, World.unlessFaulty_of_some hw]
          cases hfaults with
          | some hfg => exact ⟨.error hfg, halike⟩

/-- A store call that only looks is discreet, as what it sees is the same in worlds that are
alike. -/
theorem of_look {x : Action Fault α} {k : StoreCall} (look : World → α)
    (hrun : ∀ w, x.run w = w.unlessFaulty k (.ok (look w), w))
    (h : ∀ v w : World, v.Alike w → look v = look w) : x.Discreet Fault.Alike := by
  refine of_unlessFaulty hrun fun v w halike => ⟨?_, halike⟩
  rw [h v w halike]
  exact .ok _

theorem findByEmail (email : String) : Discreet Fault.Alike (findByEmail email) :=
  of_look (fun w => w.users.findByEmail email) (fun _ => rfl) fun _ _ h => by rw [h.users]

theorem findById (id : Uuid) : Discreet Fault.Alike (findById id) :=
  of_look (fun w => w.users.findById id) (fun _ => rfl) fun _ _ h => by rw [h.users]

theorem listRoles (id : Uuid) : Discreet Fault.Alike (listRoles id) :=
  of_look (fun w => w.users.rolesOf id) (fun _ => rfl) fun _ _ h => by rw [h.users]

theorem findActiveSession (id : Uuid) : Discreet Fault.Alike (findActiveSession id) :=
  of_look (fun w => w.sessions.findActive id w.now) (fun _ => rfl) fun _ _ h => by
    rw [h.sessions, h.now]

theorem revokeSession (id : Uuid) (stamp : Instant) :
    Discreet Fault.Alike (revokeSession id stamp) := by
  refine of_unlessFaulty (fun _ => rfl) fun v w h => ⟨.ok (), ?_⟩
  exact ⟨h.users, congrArg (·.revoke id stamp) h.sessions, h.now, h.ids, h.faults⟩

theorem createSession (s : Session) : Discreet Fault.Alike (createSession s) := by
  refine of_unlessFaulty (fun _ => rfl) fun v w h => ?_
  have hcreate : v.sessions.create s v.now = w.sessions.create s w.now := by
    rw [h.sessions, h.now]
  rw [hcreate]
  cases w.sessions.create s w.now with
  | ok r => exact ⟨.ok r.1, ⟨h.users, rfl, h.now, h.ids, h.faults⟩⟩
  | error f => exact ⟨.error (.refl f), h⟩

end Discreet

end Action

/-! ## The service is discreet -/

theorem Guard.authenticate_discreet (name : String) (hs : Headers) :
    (authenticate name hs).Discreet Fault.Alike := by
  have hrequire : ∀ {α : Type} (o : Option α), (require o).Discreet Fault.Alike := by
    intro α o
    cases o with
    | none => exact .throw (.refl _)
    | some a => exact .pure a
  refine .bind (hrequire _) fun id => ?_
  refine .bind (.findActiveSession id) fun found => ?_
  refine .bind (hrequire found) fun row => ?_
  refine .bind (.findById row.userId) fun owner => ?_
  refine .bind (hrequire _) fun user => ?_
  exact .bind (.listRoles user.id) fun roles => .pure _

namespace Service

theorem checkCredentials_discreet (s : Service) (email password : String) :
    (s.checkCredentials email password).Discreet Fault.Alike := by
  refine .bind (.findByEmail email) fun found => ?_
  cases found with
  | none => exact .throw (.refl _)
  | some u =>
      dsimp only
      split
      · exact .pure u
      · exact .throw (.refl _)

theorem issueSession_discreet (s : Service) (userId : Uuid) (client : Metadata) :
    (s.issueSession userId client).Discreet Fault.Alike := by
  refine .bind .now fun now => ?_
  cases now.add? s.sessionTtl with
  | none => exact .throw (.refl _)
  | some expiry =>
      refine .bind .freshId fun id => ?_
      exact (Action.Discreet.createSession _).mapError fun f g _ => Fault.alike_toInternal f g

theorem authenticate_discreet (s : Service) (email password : String) (client : Metadata) :
    (s.authenticate email password client).Discreet Fault.Alike := by
  unfold authenticate
  dsimp only
  by_cases hblank : Text.trimmed email = "" ∨ password = ""
  · rw [if_pos hblank]
    exact .throw (.refl _)
  · rw [if_neg hblank]
    refine .bind (s.checkCredentials_discreet _ _) fun user => ?_
    refine .bind (.listRoles user.id) fun roles => ?_
    exact .bind (s.issueSession_discreet user.id client) fun session => .pure _

theorem login_discreet (s : Service) (r : Request) : (s.login r).Discreet Fault.Alike := by
  refine .bind (.ofExcept .refl _) fun login => ?_
  refine .bind (s.authenticate_discreet _ _ _) fun granted => ?_
  refine .bind .now fun now => ?_
  exact .bind (.ofExcept .refl _) fun cookie => .pure _

theorem logout_discreet (id : Uuid) : (logout id).Discreet Fault.Alike :=
  .bind .now fun now =>
    (Action.Discreet.revokeSession id now).mapError fun f g _ => Fault.alike_toInternal f g

end Service

theorem Handler.handle_discreet (s : Service) (who : Option Identity) (r : Request)
    (h : Handler) : (h.handle s who r).Discreet Failure.Alike := by
  have hexpect : (Action.ofExcept ((expect who).mapError Failure.fault)).Discreet Failure.Alike :=
    .ofExcept .refl _
  cases h with
  | health => exact .pure _
  | login => exact (s.login_discreet r).mapError fun _ _ => .fault
  | logout =>
      refine .bind hexpect fun i => ?_
      refine .bind ((Service.logout_discreet i.sessionId).mapError fun _ _ => .fault) fun _ => ?_
      refine .bind .now fun now => ?_
      exact .bind (.ofExcept .refl _) fun cookie => .pure _
  | me => exact .bind hexpect fun i => .pure _
  | sample => exact .bind hexpect fun i => .pure _

namespace Endpoint

theorem identify_discreet (e : Endpoint) (s : Service) (r : Request) :
    (e.identify s r).Discreet Failure.Alike := by
  unfold identify
  split
  · exact .map ((Guard.authenticate_discreet _ _).mapError fun _ _ => .fault) some
  · exact .pure none

/-- **Answers do not show causes**: where the faults are alike, the answers are the same. -/
theorem settle_discreet {x : Action Failure Response} (hx : x.Discreet Failure.Alike) :
    (settle x).Discreet Eq := by
  intro v w h
  obtain ⟨hsame, halike⟩ := hx v w h
  rcases hv : x.run v with ⟨a, v'⟩
  rcases hw : x.run w with ⟨b, w'⟩
  rw [run_settle, run_settle, hv, hw]
  rw [hv, hw] at hsame halike
  cases hsame with
  | ok response => exact ⟨.ok response, halike⟩
  | error hfailures =>
      cases hfailures with
      | fault hfaults =>
          refine ⟨?_, halike⟩
          dsimp only
          rw [show Response.ofFault _ = Response.ofFault _ from hfaults]
          exact .ok _
      | overflow o => exact ⟨.error rfl, halike⟩

theorem respond_discreet (e : Endpoint) (s : Service) (r : Request) :
    (e.respond s r).Discreet Eq := by
  have hserve : (e.serve s r).Discreet Eq :=
    settle_discreet (.bind (e.identify_discreet s r) fun who => Handler.handle_discreet s who r _)
  have hreject : (e.reject s r).Discreet Eq :=
    .bind (settle_discreet (.bind (e.identify_discreet s r) fun _ => .pure _)) fun _ => .pure _
  unfold respond
  split
  · exact hserve
  · split
    · exact .map hserve _
    · exact hreject

end Endpoint

namespace Service

/-- **The service is discreet.** -/
theorem respond_discreet (s : Service) (r : Request) : (s.respond r).Discreet Eq := by
  unfold respond respondAt
  split
  · exact Endpoint.respond_discreet _ s r
  · exact .pure _

/-- In two ways of failing the same store calls fail, and all faults are those of the machinery. The
calls are told by their kinds; a request makes no two of a kind (`Service.respond_calls_nodup`). -/
structure SameCallsFail (f₁ f₂ : StoreCall → Option Fault) : Prop where
  same : ∀ k, f₁ k = none ↔ f₂ k = none
  first : ∀ k f, f₁ k = some f → f.BlamesMachinery
  second : ∀ k f, f₂ k = some f → f.BlamesMachinery

theorem SameCallsFail.alike {f₁ f₂ : StoreCall → Option Fault} (h : SameCallsFail f₁ f₂)
    (w : World) : World.Alike { w with faults := f₁ } { w with faults := f₂ } where
  users := rfl
  sessions := rfl
  now := rfl
  ids := rfl
  faults := by
    intro k
    show Option.Rel Fault.Alike (f₁ k) (f₂ k)
    cases h₁ : f₁ k with
    | none =>
        rw [(h.same k).1 h₁]
        exact .none
    | some f =>
        cases h₂ : f₂ k with
        | none =>
            rw [(h.same k).2 h₂] at h₁
            cases h₁
        | some g => exact .some ((h.first k f h₁).alike (h.second k g h₂))

/-- The answer to every request that is invalid. -/
def invalidAnswer : Response := .ofFault (.invalidRequest "")

theorem eq_invalidRequest_of_status {f : Fault} (h : f.status = 400) :
    ∃ detail, f = .invalidRequest detail := by
  cases f with
  | invalidRequest detail => exact ⟨detail, rfl⟩
  | invalidCredentials => cases h
  | unauthorized => cases h
  | database cause => cases h
  | internal cause => cases h

/-- **Causes do not reach the client.**

* Let the same store calls fail in two ways, with faults of the machinery of whatever kind and
  cause. Then every request gets the same answer in both cases, to the last character of the body,
  and the same is stored.
* There is one answer to all requests to log in that are rejected as invalid, whatever the detail
  of the rejection says. All requests that bring no login get it, and the world stays as it is. -/
theorem causes_hidden :
    (∀ (s : Service) (r : Request) (w : World) (f₁ f₂ : StoreCall → Option Fault),
      SameCallsFail f₁ f₂ →
        ((s.respond r).run { w with faults := f₁ }).1 =
            ((s.respond r).run { w with faults := f₂ }).1 ∧
          ((s.respond r).run { w with faults := f₁ }).2.users =
            ((s.respond r).run { w with faults := f₂ }).2.users ∧
          ((s.respond r).run { w with faults := f₁ }).2.sessions =
            ((s.respond r).run { w with faults := f₂ }).2.sessions) ∧
    ∃ answer : Response, answer.status = 400 ∧
      (∀ detail, Response.ofFault (.invalidRequest detail) = answer) ∧
      ∀ (s : Service) (r : Request) (w : World), r.method = "POST" →
        r.path = "/api/v1/auth/login" →
          (∀ detail w', (s.login r).run w = (.error (.invalidRequest detail), w') →
            (s.respond r).run w = (.ok answer, w')) ∧
          ((∀ login, ¬ Login.Brings r login) → (s.respond r).run w = (.ok answer, w)) := by
  constructor
  · intro s r w f₁ f₂ h
    obtain ⟨hsame, halike⟩ := s.respond_discreet r _ _ (h.alike w)
    exact ⟨hsame.eq, halike.users, halike.sessions⟩
  · have hinvalid : ∀ (s : Service) (r : Request) (w : World), r.method = "POST" →
        r.path = "/api/v1/auth/login" → ∀ detail w',
          (s.login r).run w = (.error (.invalidRequest detail), w') →
            (s.respond r).run w = (.ok invalidAnswer, w') := by
      intro s r w hmethod hpath detail w' hrun
      have hanswer := run_respond_login_of_error hmethod hpath hrun
      exact hanswer
    refine ⟨invalidAnswer, rfl, fun _ => rfl, fun s r w hmethod hpath =>
      ⟨hinvalid s r w hmethod hpath, fun hno => ?_⟩⟩
    obtain ⟨f, hrun, hstatus⟩ := run_login_of_not_brings (s := s) hno w
    obtain ⟨detail, rfl⟩ := eq_invalidRequest_of_status hstatus
    exact hinvalid s r w hmethod hpath detail w hrun

/-- The users cannot be found any more, because of a fault. -/
def losingUsers (f : Fault) : StoreCall → Option Fault := fun k =>
  if k = .findById then some f else none

theorem sameCallsFail_losingUsers {f g : Fault} (hf : f.BlamesMachinery)
    (hg : g.BlamesMachinery) : SameCallsFail (losingUsers f) (losingUsers g) where
  same k := by
    unfold losingUsers
    split <;> simp
  first k f' hf' := by
    unfold losingUsers at hf'
    split at hf'
    · cases hf'
      exact hf
    · cases hf'
  second k g' hg' := by
    unfold losingUsers at hg'
    split at hg'
    · cases hg'
      exact hg
    · cases hg'

/-- A request to log in that does not say what its body is. -/
def silentLogin : Request where
  method := "POST"
  target := "/api/v1/auth/login"

/-- Whether the users are gone or the pool is closed, the user of the small world is told the same;
and so is whoever logs in without announcing a login or with no login at all. -/
theorem causes_hidden_small :
    SameCallsFail (losingUsers (.database "users are gone")) (losingUsers (.internal "closed")) ∧
      ((plain.respond lodgerVisit).run
          { World.small with faults := losingUsers (.database "users are gone") }).1 =
        ((plain.respond lodgerVisit).run
          { World.small with faults := losingUsers (.internal "closed") }).1 ∧
      ∃ answer, (plain.respond silentLogin).run World.small = (.ok answer, World.small) ∧
        (plain.respond { lodgerLogin with body := [] }).run World.small =
          (.ok answer, World.small) := by
  have hsame := sameCallsFail_losingUsers ⟨"users are gone", .inl rfl⟩ ⟨"closed", .inr rfl⟩
  have hsilent : ∀ login, ¬ Login.Brings silentLogin login := by
    intro login h
    exact absurd h.announced (by decide)
  have hempty : ∀ login, ¬ Login.Brings { lodgerLogin with body := [] } login := by
    intro login h
    have hread : (Json.readFirst LoginRequest.decode []).toOption = none := by decide +kernel
    have hdecoded : Json.readFirst LoginRequest.decode [] = .ok login := h.decoded
    rw [hdecoded] at hread
    cases hread
  obtain ⟨hcauses, answer, -, -, hanswer⟩ := causes_hidden
  refine ⟨hsame, (hcauses plain lodgerVisit World.small _ _ hsame).1, answer, ?_, ?_⟩
  · exact (hanswer plain silentLogin World.small rfl (by decide)).2 hsilent
  · exact (hanswer plain _ World.small rfl (by decide)).2 hempty

end Service

end SessionAuth
