import SessionAuth.Account.Directory
import SessionAuth.IdSource
import SessionAuth.Session.Ledger

/-!
# Programs over the stores

Whatever the service does it does by *calls*: it reads the clock, draws an identifier, or has one
of the two stores do one thing. A store call may fail, whatever it was to do; the other two always
succeed. A `Program` is a plan of calls, each of which may depend on the replies so far, with a
result in the end.

A *world* is everything that the calls see and change. `answer` carries out a single call, at once
and as a whole; between two calls of one program other programs may carry out theirs. `run`
carries out a program alone.
-/

set_option autoImplicit false

namespace SessionAuth

/-! ## Calls -/

/-- The kinds of store calls, each of which may fail. -/
inductive StoreCall where
  | findByEmail
  | findById
  | listRoles
  | createSession
  | findActiveSession
  | revokeSession
  deriving DecidableEq, Repr

/-- One thing to be done outside the program. -/
inductive Call where
  | now
  | freshId
  | findByEmail (email : String)
  | findById (id : Uuid)
  | listRoles (id : Uuid)
  | createSession (s : Session)
  | findActiveSession (id : Uuid)
  | revokeSession (id : Uuid) (stamp : Instant)
  deriving DecidableEq

/-- What a call is answered with. -/
def Call.Reply : Call → Type
  | now => Instant
  | freshId => Uuid
  | findByEmail _ => Except Fault (Option User)
  | findById _ => Except Fault (Option User)
  | listRoles _ => Except Fault (List Role)
  | createSession _ => Except Fault Session
  | findActiveSession _ => Except Fault (Option Session)
  | revokeSession _ _ => Except Fault Unit

/-! ## Programs -/

/-- A plan of calls with a result. -/
inductive Program (α : Type) where
  | done (result : α)
  | call (c : Call) (next : c.Reply → Program α)

namespace Program

variable {α β γ : Type}

def bind (p : Program α) (f : α → Program β) : Program β :=
  match p with
  | done a => f a
  | call c next => call c fun reply => (next reply).bind f

instance : Monad Program where
  pure := done
  bind := bind

@[simp] theorem pure_eq (a : α) : (pure a : Program α) = done a := rfl

@[simp] theorem done_bind (a : α) (f : α → Program β) : done a >>= f = f a := rfl

@[simp] theorem call_bind (c : Call) (next : c.Reply → Program α) (f : α → Program β) :
    call c next >>= f = call c fun reply => next reply >>= f := rfl

theorem bind_done (p : Program α) : p >>= done = p := by
  induction p with
  | done a => rfl
  | call c next ih => simp [ih]

theorem bind_assoc (p : Program α) (f : α → Program β) (g : β → Program γ) :
    p >>= f >>= g = p >>= fun a => f a >>= g := by
  induction p with
  | done a => rfl
  | call c next ih => simp [ih]

instance : LawfulMonad Program :=
  LawfulMonad.mk' Program bind_done (fun _ _ => rfl) bind_assoc

end Program

/-- A program that may break off with an `ε`. -/
abbrev Action (ε : Type) := ExceptT ε Program

namespace Action

def now {ε : Type} : Action ε Instant := ExceptT.mk (.call .now fun t => .done (.ok t))

def freshId {ε : Type} : Action ε Uuid := ExceptT.mk (.call .freshId fun id => .done (.ok id))

def findByEmail (email : String) : Action Fault (Option User) :=
  ExceptT.mk (.call (.findByEmail email) .done)

def findById (id : Uuid) : Action Fault (Option User) := ExceptT.mk (.call (.findById id) .done)

def listRoles (id : Uuid) : Action Fault (List Role) := ExceptT.mk (.call (.listRoles id) .done)

def createSession (s : Session) : Action Fault Session :=
  ExceptT.mk (.call (.createSession s) .done)

def findActiveSession (id : Uuid) : Action Fault (Option Session) :=
  ExceptT.mk (.call (.findActiveSession id) .done)

def revokeSession (id : Uuid) (stamp : Instant) : Action Fault Unit :=
  ExceptT.mk (.call (.revokeSession id stamp) .done)

/-- The same action, its breaks renamed. -/
def mapError {ε δ α : Type} (f : ε → δ) (x : Action ε α) : Action δ α :=
  ExceptT.mk (x.run >>= fun r => .done (r.mapError f))

/-- An action that is over at once. -/
def ofExcept {ε α : Type} (r : Except ε α) : Action ε α := ExceptT.mk (.done r)

end Action

/-! ## Worlds -/

/-- What the calls see and change. -/
structure World where
  users : Directory
  sessions : Ledger
  now : Instant
  ids : IdSource
  /-- The store calls that fail, and how. -/
  faults : StoreCall → Option Fault

namespace World

/-- The reply of a store call: its fault, if calls of its kind fail, or else what it does. -/
def unlessFaulty {α : Type} (w : World) (k : StoreCall) (healthy : Except Fault α × World) :
    Except Fault α × World :=
  match w.faults k with
  | some f => (.error f, w)
  | none => healthy

def answer (w : World) : (c : Call) → c.Reply × World
  | .now => (w.now, w)
  | .freshId => (w.ids.next.1, { w with ids := w.ids.next.2 })
  | .findByEmail email => w.unlessFaulty .findByEmail (.ok (w.users.findByEmail email), w)
  | .findById id => w.unlessFaulty .findById (.ok (w.users.findById id), w)
  | .listRoles id => w.unlessFaulty .listRoles (.ok (w.users.rolesOf id), w)
  | .createSession s =>
    w.unlessFaulty .createSession <|
      match w.sessions.create s w.now with
      | .ok (stored, sessions) => (.ok stored, { w with sessions })
      | .error f => (.error f, w)
  | .findActiveSession id =>
    w.unlessFaulty .findActiveSession (.ok (w.sessions.findActive id w.now), w)
  | .revokeSession id stamp =>
    w.unlessFaulty .revokeSession
      (.ok (), { w with sessions := w.sessions.revoke id stamp })

end World

namespace Program

variable {α β : Type}

/-- Carries out a program alone. -/
def run (p : Program α) (w : World) : α × World :=
  match p with
  | done a => (a, w)
  | call c next =>
    let (reply, w) := w.answer c
    (next reply).run w

@[simp] theorem run_done (a : α) (w : World) : (done a).run w = (a, w) := rfl

theorem run_call (c : Call) (next : c.Reply → Program α) (w : World) :
    (call c next).run w = (next (w.answer c).1).run (w.answer c).2 := rfl

/-- The second plan runs in the world that the first one leaves. -/
@[simp] theorem run_bind (p : Program α) (f : α → Program β) (w : World) :
    (p >>= f).run w = (f (p.run w).1).run (p.run w).2 := by
  induction p generalizing w with
  | done a => rfl
  | call c next ih => simp [run_call, ih]

end Program

/-- Carries out an action alone. -/
def Action.run {ε α : Type} (x : Action ε α) (w : World) : Except ε α × World :=
  Program.run (ExceptT.run x) w

end SessionAuth
