import SessionAuth.Proofs.Account.Standing
import SessionAuth.Proofs.Service.Interleaving

set_option autoImplicit false

/-! # What is written in a pool, and what comes of it

However the calls of the programs in a pool are ordered, what is written is not lost.

A row comes into the ledger by one creation only: every row that was not there from the start has
been stored by one of the programs (`Pool.exists_stores`), and no identifier is taken twice
(`Pool.Stores.unique`). A row that is there takes the stamp of the first revocation that is written
for it, and nothing else happens to it (`Pool.get?_through_stamped`). A user who is switched off
or deleted stays so until somebody is let in again (`Pool.bars_of_strikes`).
-/

namespace SessionAuth

/-! ## Single calls and the ledger -/

theorem Ledger.get?_revoke_of_eq_none {l : Ledger} {id : Uuid} (h : l.get? id = none) (id' : Uuid)
    (stamp : Instant) : (l.revoke id' stamp).get? id = none := by
  unfold revoke
  split
  · next s hs =>
    split
    · exact h
    · have hne : s.id ≠ id := by
        rintro rfl
        rw [Table.key_of_get? hs, hs] at h
        cases h
      exact (Table.get?_put_of_ne l (x := { s with revokedAt := some stamp }) hne).trans h
  · exact h

/-- A creation is carried out if the identifier is free, and is refused if it is not. -/
theorem Action.run_createSession_cases {w : World} (hw : w.faults .createSession = none)
    (s : Session) :
    (∃ stored, ((createSession s).run w).1 = .ok stored ∧ stored.id = s.id) ∨
      w.sessions.get? s.id ≠ none ∧
        ((createSession s).run w).1 = .error (.database "Session already exists") := by
  have hrun : (createSession s).run w = _ := World.unlessFaulty_of_none hw _
  cases hrow : w.sessions.get? s.id with
  | none =>
      rw [Ledger.create_of_get?_eq_none hrow] at hrun
      exact Or.inl ⟨_, congrArg Prod.fst hrun, rfl⟩
  | some row =>
      rw [Ledger.create_of_get?_eq_some hrow] at hrun
      exact Or.inr ⟨nofun, congrArg Prod.fst hrun⟩

/-- **A row comes into the ledger only by a creation** that succeeds. -/
theorem World.of_get?_answer {w : World} {c : Call} {id : Uuid} {row : Session}
    (h : (w.answer c).2.sessions.get? id = some row) (hfree : w.sessions.get? id = none) :
    ∃ s session, c = .createSession s ∧ ((Action.createSession s).run w).1 = .ok session ∧
      session.id = id := by
  have hsame : (w.answer c).2.sessions ≠ w.sessions := by
    intro heq
    rw [heq, hfree] at h
    cases h
  cases c with
  | now => exact absurd rfl hsame
  | freshId => exact absurd rfl hsame
  | findByEmail email =>
      exact absurd (congrArg World.sessions (Action.OnlyLooks.findByEmail email w)) hsame
  | findById id => exact absurd (congrArg World.sessions (Action.OnlyLooks.findById id w)) hsame
  | listRoles id => exact absurd (congrArg World.sessions (Action.OnlyLooks.listRoles id w)) hsame
  | findActiveSession id =>
      exact absurd (congrArg World.sessions (Action.OnlyLooks.findActiveSession id w)) hsame
  | revokeSession id' stamp =>
      simp only [answer, unlessFaulty_snd] at h
      split at h
      · have hnone := Ledger.get?_revoke_of_eq_none hfree id' stamp
        cases hnone.symm.trans h
      · cases hfree.symm.trans h
  | createSession s =>
      cases hreply : ((Action.createSession s).run w).1 with
      | error f => exact absurd (Action.Atomic.createSession s w f hreply) hsame
      | ok session =>
          obtain ⟨-, l, hl, hafter⟩ := Action.of_run_createSession_eq_ok (Prod.ext hreply rfl)
          obtain ⟨-, -, rfl⟩ := Ledger.of_create_eq_ok hl
          refine ⟨s, session, rfl, hreply, ?_⟩
          by_cases hid : session.id = id
          · exact hid
          · have hput := Table.get?_put_of_ne w.sessions (x := session) hid
            rw [show (w.answer (.createSession s)).2 = _ from hafter] at h
            cases (hput.trans hfree).symm.trans h

/-- An entry that a call adds to the history says what the call has asked for, with success. -/
theorem World.of_mem_entries {w : World} {c : Call} {e : Ledger.Entry} (h : e ∈ w.entries c) :
    ∃ kind, c.demand? = some (kind, e.demand) ∧ w.faults kind = none := by
  unfold entries at h
  split at h
  · next kind demand hdemand =>
    split at h
    · next hfaults =>
      obtain rfl := List.mem_singleton.1 h
      exact ⟨kind, hdemand, hfaults⟩
    · cases h
  · cases h

/-- Only a revocation that is carried out has a stamp for a session. -/
theorem World.firstStamp_entries {w : World} {c : Call} {id : Uuid} {stamp : Instant}
    (h : Ledger.firstStamp id (w.entries c) = some stamp) :
    c = .revokeSession id stamp ∧ w.faults .revokeSession = none := by
  obtain ⟨e, he, hstamp⟩ := List.exists_of_findSome?_eq_some h
  obtain ⟨kind, hdemand, hfaults⟩ := of_mem_entries he
  rw [Ledger.demand_of_stampFor hstamp] at hdemand
  cases c with
  | revokeSession id' stamp' =>
      cases hdemand
      exact ⟨rfl, hfaults⟩
  | _ => cases hdemand

namespace Pool

variable {α : Type} {σ : Pool α} {ms : List Move} {id : Uuid}

/-! ## Creations -/

/-- It is the turn of a program to create a session, and the store is able to. -/
def Creates (σ : Pool α) (ms before : List Move) (i : Nat) (row : Session) : Prop :=
  σ.Makes ms before i (.createSession row) ∧
    (σ.through before).world.faults .createSession = none

/-- One of the programs creates a session, and it is stored as `session`. -/
def Stores (σ : Pool α) (ms before : List Move) (i : Nat) (session : Session) : Prop :=
  ∃ row, σ.Makes ms before i (.createSession row) ∧
    ((Action.createSession row).run (σ.through before).world).1 = .ok session

namespace Stores

variable {before before' : List Move} {i i' : Nat} {session session' : Session}

/-- The identifier was free, and now the session is found under it. -/
theorem spec (h : σ.Stores ms before i session) :
    (σ.through before).world.sessions.get? session.id = none ∧
      (σ.through (before ++ [.call i])).world.sessions.get? session.id = some session := by
  obtain ⟨row, hmakes, hreply⟩ := h
  obtain ⟨-, l, hl, hafter⟩ := Action.of_run_createSession_eq_ok (Prod.ext hreply rfl)
  obtain ⟨hfree, hstored, rfl⟩ := Ledger.of_create_eq_ok hl
  have hid : session.id = row.id := by rw [hstored]
  constructor
  · rw [hid]
    exact hfree
  · rw [hmakes.world_after,
      show ((σ.through before).world.answer (.createSession row)).2 = _ from hafter]
    exact Table.get?_put_self _ session

theorem position (h : σ.Stores ms before i session) : before ++ [.call i] <+: ms := by
  obtain ⟨row, hmakes, -⟩ := h
  exact hmakes.position

/-- From then on the identifier is taken by the session, as it was but for its revocation. -/
theorem get?_later (h : σ.Stores ms before i session) :
    ∃ stamp, (σ.through ms).world.sessions.get? session.id = some (session.stamped stamp) := by
  obtain ⟨rest, hms⟩ := h.position
  rw [← hms, through_append]
  exact ⟨_, get?_sessions_through h.spec.2 rest⟩

/-- **No identifier is taken twice.** -/
theorem unique (h : σ.Stores ms before i session) (h' : σ.Stores ms before' i' session')
    (hid : session.id = session'.id) : i = i' := by
  -- the later one of the two would find the identifier taken
  have hearlier : ∀ {p p' : List Move} {j j' : Nat} {s s' : Session}, σ.Stores ms p j s →
      σ.Stores ms p' j' s' → s.id = s'.id → ¬ p ++ [.call j] <+: p' := by
    intro p p' j j' s s' hs hs' heq hp
    obtain ⟨row, hmakes, hreply⟩ := hs
    have hbefore : σ.Stores p' p j s := ⟨row, ⟨hp, hmakes.next⟩, hreply⟩
    obtain ⟨stamp, htaken⟩ := hbefore.get?_later
    have hfree := hs'.spec.1
    rw [← heq, htaken] at hfree
    cases hfree
  rcases List.prefix_or_prefix_of_prefix h.position h'.position with hle | hle
  · rcases List.prefix_concat_iff.1 hle with heq | hlt
    · cases (List.append_inj' heq rfl).2
      rfl
    · exact absurd hlt (hearlier h h' hid)
  · rcases List.prefix_concat_iff.1 hle with heq | hlt
    · cases (List.append_inj' heq rfl).2
      rfl
    · exact absurd hlt (hearlier h' h hid.symm)

end Stores

/-- A creation stores a session, or finds the identifier taken and is refused. -/
theorem Creates.cases {before : List Move} {i : Nat} {row : Session}
    (h : σ.Creates ms before i row) :
    (∃ session, σ.Stores ms before i session ∧ session.id = row.id) ∨
      (σ.through before).world.sessions.get? row.id ≠ none ∧
        ((Action.createSession row).run (σ.through before).world).1 =
          .error (.database "Session already exists") := by
  obtain ⟨hmakes, hfaults⟩ := h
  rcases Action.run_createSession_cases hfaults row with ⟨stored, hreply, hid⟩ | hrefused
  · exact Or.inl ⟨stored, ⟨row, hmakes, hreply⟩, hid⟩
  · exact Or.inr hrefused

/-- The only move that brings a row into the ledger is a creation. -/
theorem stores_of_after {m : Move} {row : Session}
    (h : (σ.after m).world.sessions.get? id = some row) (hfree : σ.world.sessions.get? id = none)
    (ms : List Move) : ∃ i session, σ.Stores (m :: ms) [] i session ∧ session.id = id := by
  cases m with
  | outside e he =>
      have hsame : (σ.world.after e).sessions = σ.world.sessions := by
        cases e with
        | carryOut p => exact he.elim
        | _ => rfl
      replace h : (σ.world.after e).sessions.get? id = some row := h
      rw [hsame, hfree] at h
      cases h
  | call i =>
      cases hp : σ.programs i with
      | done a =>
          rw [after_call_of_done hp, hfree] at h
          cases h
      | call c next =>
          rw [after_call hp] at h
          obtain ⟨s, session, rfl, hreply, hid⟩ := World.of_get?_answer h hfree
          have hnext : σ.next? i = some (.createSession s) := by rw [next?, hp, Program.next?]
          exact ⟨i, session, ⟨s, ⟨⟨ms, rfl⟩, hnext⟩, hreply⟩, hid⟩

/-- **Every row that was not there from the start has been stored** by one of the programs. -/
theorem exists_stores (h : (σ.through ms).world.sessions.get? id ≠ none)
    (hfree : σ.world.sessions.get? id = none) :
    ∃ before i session, σ.Stores ms before i session ∧ session.id = id := by
  induction ms generalizing σ with
  | nil => exact absurd hfree h
  | cons m ms ih =>
      cases hm : (σ.after m).world.sessions.get? id with
      | some row =>
          obtain ⟨i, session, hstores, hid⟩ := stores_of_after hm hfree ms
          exact ⟨[], i, session, hstores, hid⟩
      | none =>
          obtain ⟨before, i, session, ⟨row, hmakes, hreply⟩, hid⟩ := ih h hm
          exact ⟨m :: before, i, session, ⟨row, hmakes.cons, hreply⟩, hid⟩

/-! ## Revocations -/

/-- One of the programs writes the stamp of a revocation, and the store carries this out. -/
def Revokes (σ : Pool α) (ms before : List Move) (i : Nat) (id : Uuid) (stamp : Instant) : Prop :=
  σ.Makes ms before i (.revokeSession id stamp) ∧
    (σ.through before).world.faults .revokeSession = none

/-- It is the first revocation of this session. -/
def FirstRevokes (σ : Pool α) (ms before : List Move) (i : Nat) (id : Uuid)
    (stamp : Instant) : Prop :=
  σ.Revokes ms before i id stamp ∧ ∀ p j stamp', ¬ σ.Revokes before p j id stamp'

namespace Revokes

variable {before : List Move} {i : Nat} {stamp : Instant}

/-- A revocation leaves an entry in the history. -/
theorem exists_history (h : σ.Revokes ms before i id stamp) :
    ∃ now rest, σ.history ms = σ.history before ++ ⟨now, .revoke id stamp⟩ :: rest := by
  obtain ⟨hmakes, hfaults⟩ := h
  obtain ⟨rest, rfl⟩ := hmakes.position
  have hentry : (σ.through before).world.entries (.revokeSession id stamp) =
      [⟨(σ.through before).world.now, .revoke id stamp⟩] := if_pos hfaults
  refine ⟨(σ.through before).world.now, (σ.through (before ++ [.call i])).history rest, ?_⟩
  rw [history_append, history_append, history_call hmakes.next, hentry, List.append_assoc]
  rfl

theorem firstStamp_ne_none (h : σ.Revokes ms before i id stamp) :
    Ledger.firstStamp id (σ.history ms) ≠ none := by
  obtain ⟨now, rest, hhistory⟩ := h.exists_history
  rw [hhistory]
  exact Ledger.firstStamp_ne_none (List.mem_append_right _ List.mem_cons_self) rfl

end Revokes

/-- The first stamp that the history has for a session was written by a revocation. -/
theorem exists_revokes {stamp : Instant}
    (h : Ledger.firstStamp id (σ.history ms) = some stamp) :
    ∃ before i, σ.Revokes ms before i id stamp ∧
      Ledger.firstStamp id (σ.history before) = none := by
  induction ms generalizing σ with
  | nil => cases h
  | cons m ms ih =>
      have hcons : ∀ rest, Ledger.firstStamp id (σ.history (m :: rest)) =
          (Ledger.firstStamp id (σ.history [m])).or
            (Ledger.firstStamp id ((σ.after m).history rest)) := by
        intro rest
        rw [← List.singleton_append, history_append]
        exact List.findSome?_append
      rw [hcons] at h
      cases hm : Ledger.firstStamp id (σ.history [m]) with
      | some stamp' =>
          rw [hm] at h
          cases h
          cases m with
          | outside e he =>
              cases e with
              | carryOut p => exact he.elim
              | _ => cases hm
          | call i =>
              cases hp : σ.next? i with
              | none =>
                  rw [history, events, eventsOf, hp] at hm
                  cases hm
              | some c =>
                  rw [history_call hp] at hm
                  obtain ⟨rfl, hfaults⟩ := World.firstStamp_entries hm
                  exact ⟨[], i, ⟨⟨⟨ms, rfl⟩, hp⟩, hfaults⟩, rfl⟩
      | none =>
          rw [hm] at h
          obtain ⟨before, i, ⟨hmakes, hfaults⟩, hnone⟩ := ih h
          refine ⟨m :: before, i, ⟨hmakes.cons, hfaults⟩, ?_⟩
          rw [hcons, hm, hnone]
          rfl

/-- **The first stamp of the history is the one of the first revocation.** -/
theorem firstStamp_eq_some_iff {stamp : Instant} :
    Ledger.firstStamp id (σ.history ms) = some stamp ↔
      ∃ before i, σ.FirstRevokes ms before i id stamp := by
  constructor
  · intro h
    obtain ⟨before, i, hrevokes, hnone⟩ := exists_revokes h
    exact ⟨before, i, hrevokes, fun p j stamp' h' => h'.firstStamp_ne_none hnone⟩
  · rintro ⟨before, i, hrevokes, hfirst⟩
    have hnone : Ledger.firstStamp id (σ.history before) = none := by
      cases hstamp : Ledger.firstStamp id (σ.history before) with
      | none => rfl
      | some stamp' =>
          obtain ⟨p, j, hearlier, -⟩ := exists_revokes hstamp
          exact absurd hearlier (hfirst p j stamp')
    obtain ⟨now, rest, hhistory⟩ := hrevokes.exists_history
    rw [hhistory, Ledger.firstStamp, List.findSome?_append,
      show List.findSome? _ (σ.history before) = none from hnone]
    simp [Ledger.Entry.stampFor]

/-- **What becomes of a stored session**: it takes the stamp of its first revocation. -/
theorem get?_through_stamped {before after : List Move} {row : Session}
    (hrow : (σ.through before).world.sessions.get? id = some row) :
    ∃ stamp, (σ.through (before ++ after)).world.sessions.get? id = some (row.stamped stamp) ∧
      ∀ t, stamp = some t ↔ ∃ p i, (σ.through before).FirstRevokes after p i id t := by
  refine ⟨Ledger.firstStamp id ((σ.through before).history after), ?_, ?_⟩
  · rw [through_append]
    exact get?_sessions_through hrow after
  · intro t
    exact firstStamp_eq_some_iff

/-- A session that has been revoked is not found active any more. -/
theorem findActive_of_revokes {before : List Move} {i : Nat} {stamp : Instant}
    (h : σ.Revokes ms before i id stamp)
    (hrow : (σ.through before).world.sessions.get? id ≠ none) (now : Instant) :
    (σ.through ms).world.sessions.findActive id now = none := by
  obtain ⟨row, hrow⟩ := Option.ne_none_iff_exists'.1 hrow
  obtain ⟨⟨⟨rest, rfl⟩, hnext⟩, hfaults⟩ := h
  have hrevokes : (σ.through before).Revokes ([.call i] ++ rest) [] i id stamp :=
    ⟨⟨⟨rest, rfl⟩, hnext⟩, hfaults⟩
  have hlater := get?_sessions_through hrow ([.call i] ++ rest)
  rw [← through_append, ← List.append_assoc] at hlater
  refine Ledger.findActive_eq_none_of_revoked hlater (fun hunrevoked => ?_) now
  exact hrevokes.firstStamp_ne_none (Option.or_eq_none_iff.1 hunrevoked).2

/-! ## Users who are switched off or deleted -/

/-- What happens in a run of a pool comes from outside by one of its moves, or is a call. -/
theorem of_mem_events {ms : List Move} {e : Event} (h : e ∈ σ.events ms) :
    (∃ he, Move.outside e he ∈ ms) ∨ ∃ c, e = Event.call c := by
  induction ms generalizing σ with
  | nil => cases h
  | cons m ms ih =>
      rcases List.mem_append.1 h with hfirst | hrest
      · cases m with
        | outside e' he =>
            obtain rfl := List.mem_singleton.1 hfirst
            exact Or.inl ⟨he, List.mem_cons_self⟩
        | call i =>
            obtain ⟨c, -, rfl⟩ := Option.map_eq_some_iff.1 (Option.mem_toList.1 hfirst)
            exact Or.inr ⟨c, rfl⟩
      · rcases ih hrest with ⟨he, hmem⟩ | hcall
        · exact Or.inl ⟨he, List.mem_cons_of_mem m hmem⟩
        · exact Or.inr hcall

/-- Whoever is switched off or deleted stays barred until a move lets somebody in again. -/
theorem bars_of_strikes {before between : List Move} {e : Event} {he : e.IsOutside} {owner : Uuid}
    (hstrikes : e.Strikes owner)
    (hbetween : ∀ e' he', Move.outside e' he' ∈ between → ¬ e'.Restores owner) :
    (σ.through (before ++ .outside e he :: between)).world.users.Bars owner := by
  rw [through_append]
  show (((σ.through before).after (.outside e he)).through between).world.users.Bars owner
  rw [world_through]
  refine World.bars_through (World.bars_of_strikes hstrikes) fun e' hmem hrestores => ?_
  rcases of_mem_events hmem with ⟨he', hmove⟩ | ⟨c, rfl⟩
  · exact hbetween e' he' hmove hrestores
  · rcases hrestores with hinserts | ⟨stamp, heq⟩
    · exact hinserts
    · cases heq

end Pool

end SessionAuth
