import SessionAuth.Account.Seed
import SessionAuth.Proofs.Service.Running

set_option autoImplicit false

/-! # What happens to a world

A world changes by *events*. Some come from outside: the clock is set, forwards or backwards; the
source of identifiers or the faults of the stores are replaced; somebody administers the users.
All others are programs that the service carries out: a single store call, a login, a revocation,
a look of the guard, a whole request. A world is *reachable* if events lead to it from a world
with empty stores.

Two things are true of every run of events, and most of what is proved about runs rests on them:
its effect on the ledger is a history (`World.sessions_through`), so that stored sessions persist
as `Ledger.get?_replay` says, and what every change of the directory respects holds of every
reachable directory (`World.Reachable.directory_induction`).
-/

namespace SessionAuth

/-- Something that happens to a world. -/
inductive Event where
  /-- The clock is set, to any instant. -/
  | setClock (t : Instant)
  /-- From now on these store calls fail. -/
  | setFaults (faults : StoreCall → Option Fault)
  /-- From now on identifiers come from this source. -/
  | setIds (ids : IdSource)
  | insertUser (u : User)
  | assignRole (id : Uuid) (role : Role)
  | setActive (id : Uuid) (active : Bool) (stamp : Instant)
  | softDelete (id : Uuid) (stamp : Instant)
  | seedAdmin (hash : String → String) (id roleId : Uuid) (stamp : Instant)
      (email password : String)
  /-- The service carries out a program. -/
  | carryOut {α : Type} (p : Program α)

namespace Event

/-- A single call. -/
def call (c : Call) : Event := .carryOut (.call c .done)

/-- What an event makes of a directory, if it changes it. -/
def administer (d : Directory) : Event → Except Fault Directory
  | .insertUser u => .ok (d.insert u)
  | .assignRole id role => .ok (d.assignRole id role)
  | .setActive id active stamp => d.setActive id active stamp
  | .softDelete id stamp => d.softDelete id stamp
  | .seedAdmin hash id roleId stamp email password =>
      (d.seedAdmin hash id roleId stamp email password).map Prod.snd
  | _ => .ok d

end Event

namespace World

/-- The world after an event. A change of the directory that fails changes nothing. -/
def after (w : World) (e : Event) : World :=
  match e with
  | .setClock t => { w with now := t }
  | .setFaults faults => { w with faults }
  | .setIds ids => { w with ids }
  | .carryOut p => (p.run w).2
  | e => { w with users := (e.administer w.users).toOption.getD w.users }

/-- The world after a run of events. -/
def through (w : World) : List Event → World
  | [] => w
  | e :: es => through (w.after e) es

/-- Both stores are empty. -/
def IsBlank (w : World) : Prop := w.users = Directory.empty ∧ w.sessions = Ledger.empty

/-- Events lead to the world from one with empty stores. -/
def Reachable (w : World) : Prop := ∃ w₀ es, IsBlank w₀ ∧ w = w₀.through es

theorem through_append (w : World) (es fs : List Event) :
    w.through (es ++ fs) = (w.through es).through fs := by
  induction es generalizing w with
  | nil => rfl
  | cons e es ih => exact ih (w.after e)

/-- What every event keeps a run of events keeps. -/
theorem through_induction {P : World → Prop} (hstep : ∀ w e, P w → P (w.after e))
    (es : List Event) {w : World} (hw : P w) : P (w.through es) := by
  induction es generalizing w with
  | nil => exact hw
  | cons e es ih => exact ih (hstep w e hw)

/-! ## The ledger along a run -/

/-- The entries that an event adds to the history of the ledger. -/
def entriesOf (w : World) : Event → List Ledger.Entry
  | .carryOut p => p.entries w
  | _ => []

/-- The history of the ledger along a run of events. -/
def historyOf (w : World) : List Event → List Ledger.Entry
  | [] => []
  | e :: es => w.entriesOf e ++ historyOf (w.after e) es

theorem historyOf_append (w : World) (es fs : List Event) :
    w.historyOf (es ++ fs) = w.historyOf es ++ (w.through es).historyOf fs := by
  induction es generalizing w with
  | nil => rfl
  | cons e es ih =>
      rw [List.cons_append, historyOf, ih, historyOf, List.append_assoc]
      rfl

theorem sessions_after (w : World) (e : Event) :
    (w.after e).sessions = Ledger.replay w.sessions (w.entriesOf e) := by
  cases e with
  | carryOut p => exact Program.sessions_run p w
  | _ => rfl

/-- **What a run of events does to the ledger** is what its history does. -/
theorem sessions_through (w : World) (es : List Event) :
    (w.through es).sessions = Ledger.replay w.sessions (w.historyOf es) := by
  induction es generalizing w with
  | nil => rfl
  | cons e es ih =>
      rw [historyOf, Ledger.replay_append, ← sessions_after]
      exact ih (w.after e)

/-- **A stored session persists**: after any run of events it is there under its identifier, as
it was but for the stamp of its first revocation. -/
theorem get?_sessions_through {w : World} {id : Uuid} {row : Session}
    (hrow : w.sessions.get? id = some row) (es : List Event) :
    (w.through es).sessions.get? id =
      some (row.stamped (Ledger.firstStamp id (w.historyOf es))) := by
  rw [sessions_through]
  exact Ledger.get?_replay hrow _

/-! ## The directory along a run -/

theorem users_after (w : World) (e : Event) :
    (w.after e).users = w.users ∨ e.administer w.users = .ok (w.after e).users := by
  cases e with
  | carryOut p => exact Or.inl (Program.frame_run p w).1
  | setClock t => exact Or.inl rfl
  | setFaults faults => exact Or.inl rfl
  | setIds ids => exact Or.inl rfl
  | insertUser u => exact Or.inr rfl
  | assignRole id role => exact Or.inr rfl
  | setActive id active stamp =>
      simp only [after, Event.administer]
      cases w.users.setActive id active stamp with
      | ok d => exact Or.inr rfl
      | error f => exact Or.inl rfl
  | softDelete id stamp =>
      simp only [after, Event.administer]
      cases w.users.softDelete id stamp with
      | ok d => exact Or.inr rfl
      | error f => exact Or.inl rfl
  | seedAdmin hash id roleId stamp email password =>
      simp only [after, Event.administer]
      cases w.users.seedAdmin hash id roleId stamp email password with
      | ok r => exact Or.inr rfl
      | error f => exact Or.inl rfl

/-- What holds of the empty directory and is kept by every change holds of every directory that
can be reached. -/
theorem Reachable.directory_induction {P : Directory → Prop} (hempty : P .empty)
    (hstep : ∀ d d' e, P d → Event.administer d e = .ok d' → P d') {w : World}
    (hw : w.Reachable) : P w.users := by
  obtain ⟨w₀, es, hblank, rfl⟩ := hw
  -- an event either leaves the directory alone or changes it as `administer` says
  refine through_induction (P := fun w => P w.users) (fun w e h => ?_) es (hblank.1 ▸ hempty)
  rcases users_after w e with hsame | hchange
  · exact hsame ▸ h
  · exact hstep _ _ e h hchange

/-! ## A small world

One user with a role and a session that lasts an hour. -/

/-- A world with empty stores in which nothing fails. -/
def blank : World := ⟨.empty, .empty, .epoch, {}, fun _ => none⟩

/-- The user of the small world. -/
def lodger : User := ⟨.ofNat 7, "a@b.com", "secret", true, .epoch, .epoch, none, []⟩

/-- The session of the small world. -/
def stay : Session :=
  .fresh (.ofNat 5) lodger.id .epoch ((Instant.epoch.add? (.ofHours 1)).getD .epoch)

/-- The moment when half of the hour has passed. -/
def halfTime : Instant := (Instant.epoch.add? (.ofSeconds 1800)).getD .epoch

/-- How the small world comes about. -/
def beginnings : List Event :=
  [.insertUser lodger,
    .assignRole lodger.id ⟨.ofNat 1, "user", none, .epoch, .epoch⟩,
    .assignRole lodger.id ⟨.ofNat 2, "", none, .epoch, .epoch⟩,
    .call (.createSession stay)]

/-- The small world. -/
def small : World := blank.through beginnings

theorem small_reachable : small.Reachable := ⟨blank, beginnings, ⟨rfl, rfl⟩, rfl⟩

theorem small_healthy : small.Healthy := fun _ => rfl

end World

end SessionAuth
