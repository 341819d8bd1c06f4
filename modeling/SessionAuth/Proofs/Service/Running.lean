import SessionAuth.Proofs.Session.History
import SessionAuth.Service.Program

set_option autoImplicit false

/-! # Running programs

A program runs call by call, so that whatever every single call respects the whole run respects:
`Program.run_induction`. No call touches the users or the clock, and the only way in which a call
can change the ledger is an entry of a history; the entries of a run are `Program.entries`, and
`Program.sessions_run` says that the ledger after the run is the ledger before it with these
entries replayed.

The second half evaluates actions. The equations `run_now`, `run_findById` and so on, one for each
call, together with `run_bind` compute the result of an action in a world in which its calls do
not fail; in a *healthy* world no call does. Back from a success, `of_run_bind_eq_ok` and its
likes tell what every step of the action has found and done.

What an action leaves behind is judged by its parts. An action *only looks* if it changes nothing;
it is *atomic* if it leaves the ledger as it is whenever it fails. What only looks may stand
anywhere, and what keeps the ledger may come before an atomic action, but after one there may only
be what cannot fail.
-/

namespace SessionAuth

/-! ## What every call respects -/

/-- What is asked of the ledger by a call, if anything, and the kind of the call. -/
def Call.demand? : Call → Option (StoreCall × Ledger.Demand)
  | .createSession s => some (.createSession, .create s)
  | .findActiveSession id => some (.findActiveSession, .findActive id)
  | .revokeSession id stamp => some (.revokeSession, .revoke id stamp)
  | _ => none

namespace World

/-- The entries that a call adds to the history of the ledger: none if it fails. -/
def entries (w : World) (c : Call) : List Ledger.Entry :=
  match c.demand? with
  | some (kind, demand) => if w.faults kind = none then [⟨w.now, demand⟩] else []
  | none => []

theorem unlessFaulty_of_none {α : Type} {w : World} {k : StoreCall} (h : w.faults k = none)
    (healthy : Except Fault α × World) : w.unlessFaulty k healthy = healthy := by
  simp [unlessFaulty, h]

theorem unlessFaulty_of_some {α : Type} {w : World} {k : StoreCall} {f : Fault}
    (h : w.faults k = some f) (healthy : Except Fault α × World) :
    w.unlessFaulty k healthy = (.error f, w) := by
  simp [unlessFaulty, h]

theorem of_unlessFaulty_eq_ok {α : Type} {w w' : World} {k : StoreCall} {a : α}
    {healthy : Except Fault α × World} (h : w.unlessFaulty k healthy = (.ok a, w')) :
    w.faults k = none ∧ healthy = (.ok a, w') := by
  cases hk : w.faults k with
  | none => exact ⟨rfl, by rwa [unlessFaulty_of_none hk] at h⟩
  | some f =>
      rw [unlessFaulty_of_some hk] at h
      cases h

/-- A store call leaves the world as it was or as it does when it succeeds. -/
theorem unlessFaulty_snd {α : Type} (w : World) (k : StoreCall) (healthy : Except Fault α × World) :
    (w.unlessFaulty k healthy).2 = if w.faults k = none then healthy.2 else w := by
  cases h : w.faults k with
  | none => simp [unlessFaulty_of_none h]
  | some f => simp [unlessFaulty_of_some h]

/-- **What a call does to the ledger** is what its entries do. -/
theorem sessions_answer (w : World) (c : Call) :
    (w.answer c).2.sessions = Ledger.replay w.sessions (w.entries c) := by
  cases c with
  | now => rfl
  | freshId => rfl
  | findByEmail email => simp [answer, unlessFaulty_snd, entries, Call.demand?, Ledger.replay]
  | findById id => simp [answer, unlessFaulty_snd, entries, Call.demand?, Ledger.replay]
  | listRoles id => simp [answer, unlessFaulty_snd, entries, Call.demand?, Ledger.replay]
  | createSession s =>
      simp only [answer, unlessFaulty_snd, entries, Call.demand?]
      by_cases hk : w.faults .createSession = none
      · rw [if_pos hk, if_pos hk]
        simp only [Ledger.replay, Ledger.perform]
        cases w.sessions.create s w.now with
        | ok r => rfl
        | error f => rfl
      · rw [if_neg hk, if_neg hk]
        rfl
  | findActiveSession id =>
      simp only [answer, unlessFaulty_snd, entries, Call.demand?, ite_self]
      by_cases hk : w.faults .findActiveSession = none
      · rw [if_pos hk]; rfl
      · rw [if_neg hk]; rfl
  | revokeSession id stamp =>
      simp only [answer, unlessFaulty_snd, entries, Call.demand?]
      by_cases hk : w.faults .revokeSession = none
      · rw [if_pos hk, if_pos hk]; rfl
      · rw [if_neg hk, if_neg hk]; rfl

/-- No call touches the users, the clock or the faults. -/
theorem frame_answer (w : World) (c : Call) :
    (w.answer c).2.users = w.users ∧ (w.answer c).2.now = w.now ∧
      (w.answer c).2.faults = w.faults := by
  cases c with
  | now => exact ⟨rfl, rfl, rfl⟩
  | freshId => exact ⟨rfl, rfl, rfl⟩
  | createSession s =>
      simp only [answer, unlessFaulty_snd]
      split
      · cases w.sessions.create s w.now with
        | ok r => exact ⟨rfl, rfl, rfl⟩
        | error f => exact ⟨rfl, rfl, rfl⟩
      · exact ⟨rfl, rfl, rfl⟩
  | findByEmail email => simp [answer, unlessFaulty_snd]
  | findById id => simp [answer, unlessFaulty_snd]
  | listRoles id => simp [answer, unlessFaulty_snd]
  | findActiveSession id => simp [answer, unlessFaulty_snd]
  | revokeSession id stamp =>
      simp only [answer, unlessFaulty_snd]
      split <;> exact ⟨rfl, rfl, rfl⟩

end World

/-! ## What every run respects -/

namespace Program

variable {α β : Type}

/-- What every call keeps a run keeps. -/
theorem run_induction {P : World → Prop} (hcall : ∀ w c, P w → P (w.answer c).2)
    (p : Program α) {w : World} (hw : P w) : P (p.run w).2 := by
  induction p generalizing w with
  | done a => exact hw
  | call c next ih =>
      rw [run_call]
      exact ih _ (hcall w c hw)

/-- No run touches the users, the clock or the faults. -/
theorem frame_run (p : Program α) (w : World) :
    (p.run w).2.users = w.users ∧ (p.run w).2.now = w.now ∧ (p.run w).2.faults = w.faults := by
  -- the three are compared with those of the world at the start, along the whole run
  refine run_induction (P := fun w' => w'.users = w.users ∧ w'.now = w.now ∧
    w'.faults = w.faults) (fun w' c hw' => ?_) p ⟨rfl, rfl, rfl⟩
  obtain ⟨hu, hn, hf⟩ := World.frame_answer w' c
  exact ⟨hu.trans hw'.1, hn.trans hw'.2.1, hf.trans hw'.2.2⟩

/-- The entries that a run adds to the history of the ledger. -/
def entries (p : Program α) (w : World) : List Ledger.Entry :=
  match p with
  | done _ => []
  | call c next => w.entries c ++ (next (w.answer c).1).entries (w.answer c).2

/-- **What a run does to the ledger** is what its entries do. -/
theorem sessions_run (p : Program α) (w : World) :
    (p.run w).2.sessions = Ledger.replay w.sessions (p.entries w) := by
  induction p generalizing w with
  | done a => rfl
  | call c next ih =>
      -- the entries of the first call are replayed first, and lead to where the rest begins
      rw [run_call, entries, Ledger.replay_append, ← World.sessions_answer]
      exact ih _ _

end Program

/-! ## Evaluating actions -/

namespace Action

variable {ε δ α β : Type}

@[simp] theorem run_pure (a : α) (w : World) : (pure a : Action ε α).run w = (.ok a, w) := rfl

@[simp] theorem run_throw (e : ε) (w : World) :
    (throw e : Action ε α).run w = (.error e, w) := rfl

@[simp] theorem run_ofExcept (r : Except ε α) (w : World) : (ofExcept r).run w = (r, w) := rfl

@[simp] theorem run_now (w : World) : (now : Action ε Instant).run w = (.ok w.now, w) := rfl

@[simp] theorem run_freshId (w : World) :
    (freshId : Action ε Uuid).run w = (.ok w.ids.next.1, { w with ids := w.ids.next.2 }) := rfl

theorem run_bind (x : Action ε α) (f : α → Action ε β) (w : World) :
    (x >>= f).run w =
      match x.run w with
      | (.ok a, w') => (f a).run w'
      | (.error e, w') => (.error e, w') := by
  show Program.run (ExceptT.run x >>= ExceptT.bindCont f) w = _
  rw [Program.run_bind]
  show Program.run (ExceptT.bindCont f (x.run w).1) (x.run w).2 = _
  rcases x.run w with ⟨a | e, w'⟩ <;> rfl

theorem run_bind_of_ok {x : Action ε α} {a : α} {w w' : World} (h : x.run w = (.ok a, w'))
    (f : α → Action ε β) : (x >>= f).run w = (f a).run w' := by
  rw [run_bind, h]

theorem run_bind_of_error {x : Action ε α} {e : ε} {w w' : World} (h : x.run w = (.error e, w'))
    (f : α → Action ε β) : (x >>= f).run w = (.error e, w') := by
  rw [run_bind, h]

/-- An action that succeeded was one whose first part did. -/
theorem of_run_bind_eq_ok {x : Action ε α} {f : α → Action ε β} {b : β} {w w' : World}
    (h : (x >>= f).run w = (.ok b, w')) :
    ∃ a v, x.run w = (.ok a, v) ∧ (f a).run v = (.ok b, w') := by
  rw [run_bind] at h
  rcases hx : x.run w with ⟨e | a, v⟩
  · rw [hx] at h
    cases h
  · rw [hx] at h
    exact ⟨a, v, rfl, h⟩

@[simp] theorem run_mapError (f : ε → δ) (x : Action ε α) (w : World) :
    (x.mapError f).run w = ((x.run w).1.mapError f, (x.run w).2) := by
  show Program.run (ExceptT.run x >>= fun r => .done (r.mapError f)) w = _
  rw [Program.run_bind]
  rfl

theorem of_run_mapError_eq_ok {f : ε → δ} {x : Action ε α} {a : α} {w w' : World}
    (h : (x.mapError f).run w = (.ok a, w')) : x.run w = (.ok a, w') := by
  rw [run_mapError] at h
  rcases hx : x.run w with ⟨e | a', v⟩
  · rw [hx] at h
    cases h
  · rw [hx] at h
    cases h
    rfl

end Action

/-- No store call fails. -/
def World.Healthy (w : World) : Prop := ∀ k, w.faults k = none

namespace Action

variable {w w' : World}

/-! A store call does its work unless calls of its kind fail. -/

theorem run_findByEmail (h : w.faults .findByEmail = none) (email : String) :
    (findByEmail email).run w = (.ok (w.users.findByEmail email), w) :=
  World.unlessFaulty_of_none h _

theorem run_findById (h : w.faults .findById = none) (id : Uuid) :
    (findById id).run w = (.ok (w.users.findById id), w) :=
  World.unlessFaulty_of_none h _

theorem run_listRoles (h : w.faults .listRoles = none) (id : Uuid) :
    (listRoles id).run w = (.ok (w.users.rolesOf id), w) :=
  World.unlessFaulty_of_none h _

theorem run_findActiveSession (h : w.faults .findActiveSession = none) (id : Uuid) :
    (findActiveSession id).run w = (.ok (w.sessions.findActive id w.now), w) :=
  World.unlessFaulty_of_none h _

/-! What a store call did when it succeeded, in whatever world. -/

theorem of_run_findByEmail_eq_ok {email : String} {found : Option User}
    (h : (findByEmail email).run w = (.ok found, w')) :
    w.faults .findByEmail = none ∧ found = w.users.findByEmail email ∧ w' = w := by
  obtain ⟨hk, hok⟩ := World.of_unlessFaulty_eq_ok h
  cases hok
  exact ⟨hk, rfl, rfl⟩

theorem of_run_findById_eq_ok {id : Uuid} {found : Option User}
    (h : (findById id).run w = (.ok found, w')) :
    w.faults .findById = none ∧ found = w.users.findById id ∧ w' = w := by
  obtain ⟨hk, hok⟩ := World.of_unlessFaulty_eq_ok h
  cases hok
  exact ⟨hk, rfl, rfl⟩

theorem of_run_listRoles_eq_ok {id : Uuid} {roles : List Role}
    (h : (listRoles id).run w = (.ok roles, w')) :
    w.faults .listRoles = none ∧ roles = w.users.rolesOf id ∧ w' = w := by
  obtain ⟨hk, hok⟩ := World.of_unlessFaulty_eq_ok h
  cases hok
  exact ⟨hk, rfl, rfl⟩

theorem of_run_findActiveSession_eq_ok {id : Uuid} {found : Option Session}
    (h : (findActiveSession id).run w = (.ok found, w')) :
    w.faults .findActiveSession = none ∧ found = w.sessions.findActive id w.now ∧ w' = w := by
  obtain ⟨hk, hok⟩ := World.of_unlessFaulty_eq_ok h
  cases hok
  exact ⟨hk, rfl, rfl⟩

theorem of_run_createSession_eq_ok {s stored : Session}
    (h : (createSession s).run w = (.ok stored, w')) :
    w.faults .createSession = none ∧
      ∃ l, w.sessions.create s w.now = .ok (stored, l) ∧ w' = { w with sessions := l } := by
  obtain ⟨hk, hok⟩ := World.of_unlessFaulty_eq_ok h
  cases hs : w.sessions.create s w.now with
  | ok r =>
      rw [hs] at hok
      cases hok
      exact ⟨hk, _, rfl, rfl⟩
  | error f =>
      rw [hs] at hok
      cases hok

/-! ## Actions that only look -/

/-- The action changes nothing, in whatever world. -/
def OnlyLooks {ε α : Type} (x : Action ε α) : Prop := ∀ w, (x.run w).2 = w

namespace OnlyLooks

variable {ε α β : Type}

theorem pure (a : α) : OnlyLooks (Pure.pure a : Action ε α) := fun _ => rfl

theorem throw (e : ε) : OnlyLooks (MonadExcept.throw e : Action ε α) := fun _ => rfl

theorem mapError {δ : Type} {x : Action ε α} (hx : x.OnlyLooks) (f : ε → δ) :
    (x.mapError f).OnlyLooks := by
  intro w
  rw [run_mapError]
  exact hx w

theorem ofExcept (r : Except ε α) : (ofExcept r).OnlyLooks := fun _ => rfl

theorem now : (now : Action ε Instant).OnlyLooks := fun _ => rfl

theorem findByEmail (email : String) : (findByEmail email).OnlyLooks := fun w =>
  (World.unlessFaulty_snd w .findByEmail (Except.ok _, w)).trans (ite_self w)

theorem findById (id : Uuid) : (findById id).OnlyLooks := fun w =>
  (World.unlessFaulty_snd w .findById (Except.ok _, w)).trans (ite_self w)

theorem listRoles (id : Uuid) : (listRoles id).OnlyLooks := fun w =>
  (World.unlessFaulty_snd w .listRoles (Except.ok _, w)).trans (ite_self w)

theorem findActiveSession (id : Uuid) : (findActiveSession id).OnlyLooks := fun w =>
  (World.unlessFaulty_snd w .findActiveSession (Except.ok _, w)).trans (ite_self w)

/-- What is done after an action leaves no trace if it only looks. -/
theorem snd_run_bind {f : α → Action ε β} (hf : ∀ a, (f a).OnlyLooks) (x : Action ε α)
    (w : World) : ((x >>= f).run w).2 = (x.run w).2 := by
  rcases h : x.run w with ⟨e | a, v⟩
  · rw [run_bind_of_error h]
  · rw [run_bind_of_ok h]
    exact hf a v

theorem bind {x : Action ε α} {f : α → Action ε β} (hx : x.OnlyLooks)
    (hf : ∀ a, (f a).OnlyLooks) : (x >>= f).OnlyLooks :=
  fun w => (snd_run_bind hf x w).trans (hx w)

/-- What an action makes of two worlds is the same if its parts see no difference. -/
theorem fst_run_bind {x : Action ε α} {f : α → Action ε β} (hx : x.OnlyLooks) {v w : World}
    (hsame : (x.run v).1 = (x.run w).1) (hf : ∀ a, ((f a).run v).1 = ((f a).run w).1) :
    ((x >>= f).run v).1 = ((x >>= f).run w).1 := by
  have hv : x.run v = ((x.run w).1, v) := Prod.ext hsame (hx v)
  have hw : x.run w = ((x.run w).1, w) := Prod.ext rfl (hx w)
  cases hr : (x.run w).1 with
  | ok a =>
      rw [hr] at hv hw
      rw [run_bind_of_ok hv, run_bind_of_ok hw]
      exact hf a
  | error e =>
      rw [hr] at hv hw
      rw [run_bind_of_error hv, run_bind_of_error hw]

end OnlyLooks

/-! ## Actions that fail without a trace -/

/-- The action leaves the ledger as it is, in whatever world. -/
def KeepsLedger {ε α : Type} (x : Action ε α) : Prop := ∀ w, (x.run w).2.sessions = w.sessions

/-- If the action fails, it leaves the ledger as it is. -/
def Atomic {ε α : Type} (x : Action ε α) : Prop :=
  ∀ w e, (x.run w).1 = .error e → (x.run w).2.sessions = w.sessions

variable {ε δ α β : Type}

theorem OnlyLooks.keepsLedger {x : Action ε α} (hx : x.OnlyLooks) : x.KeepsLedger := by
  intro w
  rw [hx w]

theorem KeepsLedger.freshId : (freshId : Action ε Uuid).KeepsLedger := fun _ => rfl

namespace Atomic

theorem of_keepsLedger {x : Action ε α} (hx : x.KeepsLedger) : x.Atomic := fun w _ _ => hx w

theorem mapError {x : Action ε α} (hx : x.Atomic) (f : ε → δ) : (x.mapError f).Atomic := by
  intro w e h
  rw [run_mapError] at h ⊢
  cases hr : (x.run w).1 with
  | ok a =>
      rw [hr] at h
      cases h
  | error e' => exact hx w e' hr

/-- What keeps the ledger may come before an action that fails without a trace. -/
theorem bind {x : Action ε α} {f : α → Action ε β} (hx : x.KeepsLedger)
    (hf : ∀ a, (f a).Atomic) : (x >>= f).Atomic := by
  intro w e h
  rcases hr : x.run w with ⟨e' | a, v⟩
  · rw [run_bind_of_error hr]
    show v.sessions = w.sessions
    rw [← hx w, hr]
  · rw [run_bind_of_ok hr] at h ⊢
    rw [hf a v e h, ← hx w, hr]

/-- What cannot fail may come after it. -/
theorem bind_pure {x : Action ε α} (hx : x.Atomic) (f : α → β) :
    (x >>= fun a => Pure.pure (f a)).Atomic := by
  intro w e h
  rcases hr : x.run w with ⟨e' | a, v⟩
  · have hkept := hx w e' (by rw [hr])
    rw [run_bind_of_error hr]
    rwa [hr] at hkept
  · rw [run_bind_of_ok hr] at h
    cases h

/-- A session that cannot be stored leaves no row. -/
theorem createSession (s : Session) : (createSession s).Atomic := by
  intro w e h
  cases hk : w.faults .createSession with
  | some f =>
      show (w.unlessFaulty .createSession _).2.sessions = w.sessions
      rw [World.unlessFaulty_of_some hk]
  | none =>
      have hrun : (Action.createSession s).run w = _ := World.unlessFaulty_of_none hk _
      rw [hrun] at h ⊢
      cases hs : w.sessions.create s w.now with
      | ok r =>
          rw [hs] at h
          cases h
      | error f => rfl

/-- A revocation fails only if the call does. -/
theorem revokeSession (id : Uuid) (stamp : Instant) : (revokeSession id stamp).Atomic := by
  intro w e h
  cases hk : w.faults .revokeSession with
  | some f =>
      show (w.unlessFaulty .revokeSession _).2.sessions = w.sessions
      rw [World.unlessFaulty_of_some hk]
  | none =>
      have hrun : (Action.revokeSession id stamp).run w = _ := World.unlessFaulty_of_none hk _
      rw [hrun] at h
      cases h

end Atomic

end Action

end SessionAuth
