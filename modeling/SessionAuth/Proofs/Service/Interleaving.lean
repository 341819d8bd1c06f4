import SessionAuth.Proofs.Service.Event

set_option autoImplicit false

/-! # Programs side by side

Programs need not be carried out one after the other. Here any number of them share a world: a
*pool* is a world and what is left of each program. Its moves are that one of the programs makes
its next call, which is carried out at once and as a whole, and that something happens from outside.
The order of the moves is arbitrary.

A run of a pool can be looked at in two ways. Seen from the world it is a run of events
(`Pool.events`), so that all that is known of such runs applies: `Pool.world_through`. Seen from one
program it is the row of worlds in which this program has made its calls (`Pool.met`), and what is
left of the program depends on nothing else: `Pool.leads_through`. A single call is pinned down by
the moves before it (`Pool.Makes`), and every world that a program has met belongs to one of its
calls (`Pool.exists_makes`).
-/

namespace SessionAuth

/-! ## One program among others -/

namespace Program

variable {α β : Type}

/-- The call that is to be made next, if the program is not over. -/
def next? : Program α → Option Call
  | done _ => none
  | call c _ => some c

/-- The result, if the program is over. -/
def result? : Program α → Option α
  | done a => some a
  | call _ _ => none

/-- Once its next calls have been answered in these worlds, one after the other, the first program
has the second one left to do. -/
inductive Leads : Program α → List World → Program α → Prop
  | here (p : Program α) : Leads p [] p
  | call {c : Call} {next : c.Reply → Program α} {w : World} {ws : List World} {q : Program α}
      (rest : Leads (next (w.answer c).1) ws q) : Leads (.call c next) (w :: ws) q

theorem Leads.trans {p q r : Program α} {vs ws : List World} (h : Leads p vs q)
    (h' : Leads q ws r) : Leads p (vs ++ ws) r := by
  induction h with
  | here p => exact h'
  | call rest ih => exact .call (ih h')

/-- A program that is over makes no more calls. -/
theorem of_leads_done {a : α} {ws : List World} {q : Program α} (h : Leads (done a) ws q) :
    ws = [] ∧ q = done a := by
  cases h
  exact ⟨rfl, rfl⟩

/-- What a program has left is determined by the worlds that it has met. -/
theorem Leads.unique {p q q' : Program α} {ws : List World} (h : Leads p ws q)
    (h' : Leads p ws q') : q = q' := by
  induction h with
  | here p =>
      cases h'
      rfl
  | call rest ih =>
      cases h' with
      | call rest' => exact ih rest'

/-- The first program of a bind is still at work, or it is over and the second one is. -/
theorem of_leads_bind {p : Program α} {f : α → Program β} {ws : List World} {q : Program β}
    (h : Leads (p >>= f) ws q) :
    (∃ p', Leads p ws p' ∧ q = p' >>= f) ∨
      ∃ a us vs, ws = us ++ vs ∧ Leads p us (done a) ∧ Leads (f a) vs q := by
  induction p generalizing ws with
  | done a => exact Or.inr ⟨a, [], ws, rfl, .here _, h⟩
  | call c next ih =>
      cases h with
      | here => exact Or.inl ⟨_, .here _, rfl⟩
      | call rest =>
          rcases ih _ rest with ⟨p', hp', hq⟩ | ⟨a, us, vs, hws, hp, hf⟩
          · exact Or.inl ⟨p', .call hp', hq⟩
          · exact Or.inr ⟨a, _ :: us, vs, congrArg _ hws, .call hp, hf⟩

theorem Leads.map {p q : Program α} {ws : List World} (h : Leads p ws q) (f : α → β) :
    Leads (f <$> p) ws (f <$> q) := by
  induction h with
  | here p => exact .here _
  | call rest ih => exact .call ih

/-- A program whose result is renamed runs as before. -/
theorem of_leads_map {f : α → β} {p : Program α} {ws : List World} {q : Program β}
    (h : Leads (f <$> p) ws q) : ∃ p', Leads p ws p' ∧ q = f <$> p' := by
  rcases of_leads_bind h with ⟨p', hp', hq⟩ | ⟨a, us, vs, rfl, hp, hf⟩
  · exact ⟨p', hp', hq⟩
  · obtain ⟨rfl, rfl⟩ := of_leads_done hf
    rw [List.append_nil]
    exact ⟨done a, hp, rfl⟩

theorem of_leads_map_done {f : α → β} {p : Program α} {ws : List World} {b : β}
    (h : Leads (f <$> p) ws (done b)) : ∃ a, Leads p ws (done a) ∧ b = f a := by
  obtain ⟨q, hq, heq⟩ := of_leads_map h
  cases q with
  | done a =>
      cases heq
      exact ⟨a, hq, rfl⟩
  | call c next => cases heq

@[simp] theorem next?_map (f : α → β) (p : Program α) : (f <$> p).next? = p.next? := by
  cases p with
  | done a => rfl
  | call c next => rfl

theorem eq_done_of_result? {p : Program α} {a : α} (h : p.result? = some a) : p = done a := by
  cases p with
  | done b =>
      cases h
      rfl
  | call c next => cases h

/-! ### Programs that create no session -/

/-- None of the calls that the program may make creates a session. -/
def CreatesNothing : Program α → Prop
  | done _ => True
  | call c next => (∀ s, c ≠ .createSession s) ∧ ∀ reply, (next reply).CreatesNothing

theorem CreatesNothing.bind {p : Program α} {f : α → Program β} (hp : p.CreatesNothing)
    (hf : ∀ a, (f a).CreatesNothing) : (p >>= f).CreatesNothing := by
  induction p with
  | done a => exact hf a
  | call c next ih => exact ⟨hp.1, fun reply => ih reply (hp.2 reply)⟩

/-- It will not do so later either. -/
theorem CreatesNothing.of_leads {p q : Program α} {ws : List World} (hp : p.CreatesNothing)
    (h : Leads p ws q) : q.CreatesNothing := by
  induction h with
  | here p => exact hp
  | call rest ih => exact ih (hp.2 _)

end Program

/-! ## Pools -/

/-- The event comes from outside: it is none of the service's own programs. -/
def Event.IsOutside : Event → Prop
  | .carryOut _ => False
  | _ => True

/-- What can happen next where programs run side by side. -/
inductive Move where
  /-- One of the programs makes its next call. -/
  | call (i : Nat)
  | outside (e : Event) (h : e.IsOutside)

/-- A world, and what is left of the programs that run side by side in it. -/
structure Pool (α : Type) where
  world : World
  programs : Nat → Program α

namespace Pool

variable {α : Type}

/-- The pool after a move. A program that is over is not affected when it is its turn. -/
def after (σ : Pool α) : Move → Pool α
  | .outside e _ => { σ with world := σ.world.after e }
  | .call i =>
    match σ.programs i with
    | .done _ => σ
    | .call c next =>
      { world := (σ.world.answer c).2
        programs := fun j => if j = i then next (σ.world.answer c).1 else σ.programs j }

/-- The pool after a run of moves. -/
def through (σ : Pool α) : List Move → Pool α
  | [] => σ
  | m :: ms => (σ.after m).through ms

/-- The call that one of the programs is to make next. -/
def next? (σ : Pool α) (i : Nat) : Option Call := (σ.programs i).next?

/-- The result of one of the programs, if it is over. -/
def result? (σ : Pool α) (i : Nat) : Option α := (σ.programs i).result?

theorem through_append (σ : Pool α) (ms ns : List Move) :
    σ.through (ms ++ ns) = (σ.through ms).through ns := by
  induction ms generalizing σ with
  | nil => rfl
  | cons m ms ih => exact ih (σ.after m)

theorem after_call {σ : Pool α} {i : Nat} {c : Call} {next : c.Reply → Program α}
    (h : σ.programs i = .call c next) :
    σ.after (.call i) =
      { world := (σ.world.answer c).2
        programs := fun j => if j = i then next (σ.world.answer c).1 else σ.programs j } := by
  simp only [after, h]

theorem after_call_of_done {σ : Pool α} {i : Nat} {a : α} (h : σ.programs i = .done a) :
    σ.after (.call i) = σ := by
  simp only [after, h]

theorem exists_of_next? {σ : Pool α} {i : Nat} {c : Call} (h : σ.next? i = some c) :
    ∃ next, σ.programs i = .call c next := by
  unfold next? at h
  cases hp : σ.programs i with
  | done a =>
      rw [hp] at h
      cases h
  | call c' next =>
      rw [hp] at h
      cases h
      exact ⟨next, rfl⟩

/-- Only the program whose turn it is makes headway. -/
theorem programs_after_of_ne {σ : Pool α} {i : Nat} {m : Move} (hm : m ≠ .call i) :
    (σ.after m).programs i = σ.programs i := by
  cases m with
  | outside e h => rfl
  | call j =>
      have hne : i ≠ j := by
        rintro rfl
        exact hm rfl
      cases hp : σ.programs j with
      | done a => rw [after_call_of_done hp]
      | call c next =>
          rw [after_call hp]
          exact if_neg hne

/-- A program that is over stays so. -/
theorem programs_through_of_done {σ : Pool α} {i : Nat} {a : α} (h : σ.programs i = .done a)
    (ms : List Move) : (σ.through ms).programs i = .done a := by
  induction ms generalizing σ with
  | nil => exact h
  | cons m ms ih =>
      refine ih ?_
      by_cases hm : m = .call i
      · rw [hm, after_call_of_done h]
        exact h
      · rw [programs_after_of_ne hm, h]

/-! ### Seen from the world -/

/-- What a move is to the world. -/
def eventsOf (σ : Pool α) : Move → List Event
  | .outside e _ => [e]
  | .call i => ((σ.next? i).map Event.call).toList

/-- What a run of moves is to the world. -/
def events (σ : Pool α) : List Move → List Event
  | [] => []
  | m :: ms => σ.eventsOf m ++ (σ.after m).events ms

/-- The history of the ledger along a run of moves. -/
def history (σ : Pool α) (ms : List Move) : List Ledger.Entry :=
  σ.world.historyOf (σ.events ms)

theorem world_after (σ : Pool α) (m : Move) :
    (σ.after m).world = σ.world.through (σ.eventsOf m) := by
  cases m with
  | outside e h => rfl
  | call i =>
      cases hp : σ.programs i with
      | done a =>
          rw [after_call_of_done hp, eventsOf, next?, hp]
          rfl
      | call c next =>
          rw [after_call hp, eventsOf, next?, hp]
          rfl

/-- **To the world a run of moves is a run of events.** -/
theorem world_through (σ : Pool α) (ms : List Move) :
    (σ.through ms).world = σ.world.through (σ.events ms) := by
  induction ms generalizing σ with
  | nil => rfl
  | cons m ms ih =>
      rw [events, World.through_append, ← world_after]
      exact ih (σ.after m)

theorem history_append (σ : Pool α) (ms ns : List Move) :
    σ.history (ms ++ ns) = σ.history ms ++ (σ.through ms).history ns := by
  induction ms generalizing σ with
  | nil => rfl
  | cons m ms ih =>
      have hcons : ∀ rest, σ.history (m :: rest) =
          σ.world.historyOf (σ.eventsOf m) ++ (σ.after m).history rest := by
        intro rest
        rw [history, events, World.historyOf_append, ← world_after]
        rfl
      rw [List.cons_append, hcons, hcons, ih, List.append_assoc]
      rfl

/-- What a call adds to the history. -/
theorem history_call {σ : Pool α} {i : Nat} {c : Call} (h : σ.next? i = some c) :
    σ.history [.call i] = σ.world.entries c := by
  rw [history, events, eventsOf, h]
  exact (List.append_nil _).trans (List.append_nil _)

/-- A stored session persists, as it was but for the stamp of its first revocation. -/
theorem get?_sessions_through {σ : Pool α} {id : Uuid} {row : Session}
    (hrow : σ.world.sessions.get? id = some row) (ms : List Move) :
    (σ.through ms).world.sessions.get? id =
      some (row.stamped (Ledger.firstStamp id (σ.history ms))) := by
  rw [world_through]
  exact World.get?_sessions_through hrow _

/-! ### Seen from one program -/

/-- The world in which a program makes a call by a move, if it does. -/
def metOf (σ : Pool α) (i : Nat) : Move → List World
  | .outside _ _ => []
  | .call j => if j = i ∧ (σ.next? i).isSome then [σ.world] else []

/-- The worlds in which a program makes its calls, in their order. -/
def met (σ : Pool α) (i : Nat) : List Move → List World
  | [] => []
  | m :: ms => σ.metOf i m ++ (σ.after m).met i ms

theorem met_append (σ : Pool α) (i : Nat) (ms ns : List Move) :
    σ.met i (ms ++ ns) = σ.met i ms ++ (σ.through ms).met i ns := by
  induction ms generalizing σ with
  | nil => rfl
  | cons m ms ih =>
      rw [List.cons_append, met, met, ih, List.append_assoc]
      rfl

theorem metOf_of_next? {σ : Pool α} {i : Nat} {c : Call} (h : σ.next? i = some c) :
    σ.metOf i (.call i) = [σ.world] := by
  unfold metOf
  rw [h]
  exact if_pos ⟨rfl, rfl⟩

theorem leads_after (σ : Pool α) (i : Nat) (m : Move) :
    Program.Leads (σ.programs i) (σ.metOf i m) ((σ.after m).programs i) := by
  by_cases hm : m = .call i
  · subst hm
    cases hp : σ.programs i with
    | done a =>
        have hmet : σ.metOf i (.call i) = [] := by
          simp [metOf, next?, hp, Program.next?]
        rw [hmet, after_call_of_done hp, hp]
        exact .here _
    | call c next =>
        have hnext : σ.next? i = some c := by rw [next?, hp, Program.next?]
        rw [metOf_of_next? hnext, after_call hp]
        simp only [if_true]
        exact .call (.here _)
  · have hmet : σ.metOf i m = [] := by
      cases m with
      | outside e h => rfl
      | call j => exact if_neg fun h => hm (congrArg _ h.1)
    rw [hmet, programs_after_of_ne hm]
    exact .here _

/-- **What is left of a program depends on the worlds that it has met** and on nothing else. -/
theorem leads_through (σ : Pool α) (i : Nat) (ms : List Move) :
    Program.Leads (σ.programs i) (σ.met i ms) ((σ.through ms).programs i) := by
  induction ms generalizing σ with
  | nil => exact .here _
  | cons m ms ih => exact (σ.leads_after i m).trans (ih (σ.after m))

/-! ### Single calls of a run -/

/-- In the run of moves `ms`, right after the moves `before`, one of the programs makes a call. -/
structure Makes (σ : Pool α) (ms before : List Move) (i : Nat) (c : Call) : Prop where
  position : before ++ [.call i] <+: ms
  next : (σ.through before).next? i = some c

namespace Makes

variable {σ : Pool α} {ms before : List Move} {i : Nat} {c : Call}

/-- The call is carried out in the world of that moment. -/
theorem world_after (h : σ.Makes ms before i c) :
    (σ.through (before ++ [.call i])).world = ((σ.through before).world.answer c).2 := by
  obtain ⟨next, hp⟩ := exists_of_next? h.next
  rw [through_append]
  show ((σ.through before).after (.call i)).world = _
  rw [after_call hp]

/-- The program meets the world of that moment. -/
theorem exists_met (h : σ.Makes ms before i c) :
    ∃ vs, σ.met i ms = σ.met i before ++ (σ.through before).world :: vs := by
  obtain ⟨rest, rfl⟩ := h.position
  refine ⟨((σ.through before).after (.call i)).met i rest, ?_⟩
  rw [List.append_assoc, List.singleton_append, met_append, met, metOf_of_next? h.next]
  rfl

theorem mono (h : σ.Makes ms before i c) {ns : List Move} (hms : ms <+: ns) :
    σ.Makes ns before i c :=
  ⟨h.position.trans hms, h.next⟩

theorem cons {m : Move} (h : (σ.after m).Makes ms before i c) :
    σ.Makes (m :: ms) (m :: before) i c :=
  ⟨List.cons_prefix_cons.2 ⟨rfl, h.position⟩, h.next⟩

end Makes

/-- Every world that a program has met was there when the program made a call. -/
theorem exists_makes {σ : Pool α} {i : Nat} {ms : List Move} (us : List World) {vs : List World}
    {w : World} (h : σ.met i ms = us ++ w :: vs) :
    ∃ before c, σ.Makes ms before i c ∧ σ.met i before = us ∧ (σ.through before).world = w := by
  induction ms generalizing σ us with
  | nil => exact absurd h (by simp [met])
  | cons m ms ih =>
      rw [met] at h
      by_cases hm : ∃ c, m = .call i ∧ σ.next? i = some c
      · obtain ⟨c, rfl, hc⟩ := hm
        rw [metOf_of_next? hc, List.singleton_append] at h
        cases us with
        | nil =>
            -- the first call of the program is the one that is looked for
            cases h
            exact ⟨[], c, ⟨⟨ms, rfl⟩, hc⟩, rfl, rfl⟩
        | cons u us =>
            obtain ⟨hu, hrest⟩ := List.cons.inj h
            obtain ⟨before, c', hmakes, hmet, hworld⟩ := ih us hrest
            refine ⟨.call i :: before, c', hmakes.cons, ?_, hworld⟩
            rw [met, metOf_of_next? hc, hmet, hu]
            rfl
      · have hmet : σ.metOf i m = [] := by
          cases m with
          | outside e h => rfl
          | call j =>
              refine if_neg ?_
              rintro ⟨rfl, hsome⟩
              obtain ⟨c, hc⟩ := Option.isSome_iff_exists.1 hsome
              exact hm ⟨c, rfl, hc⟩
        rw [hmet, List.nil_append] at h
        obtain ⟨before, c, hmakes, hbefore, hworld⟩ := ih us h
        refine ⟨m :: before, c, hmakes.cons, ?_, hworld⟩
        rw [met, hmet, hbefore, List.nil_append]

end Pool

end SessionAuth
