import SessionAuth.Json.Decode

set_option autoImplicit false

/-! # Reading records

A record takes the members of an object one after the other, each into the slot with its name. Two
members that can both be taken can be taken in either order, so that the order of all members does
not matter (`Json.Record.takeMembers_perm`), and members of other names are passed over. So a record
is read from an object that holds a value for each of its members, among others and in any order:
`Json.Record.decode_object`.
-/

namespace SessionAuth.Json

theorem map_eq_ok_iff {α β : Type} {x : Except Trouble α} {f : α → β} {b : β} :
    x.map f = .ok b ↔ ∃ a, x = .ok a ∧ f a = b := by
  cases x <;> simp [Except.map]

/-- A member of an object: its name and its value. -/
abbrev Entry := Except Trouble String × Outline

namespace Record

variable {αs : List Type}

def names : {αs : List Type} → Record αs → List String
  | _, nil => []
  | _, cons f r => f.name :: r.names

/-- The entry has a name that is none of the record's, and can be passed over. -/
def Foreign (r : Record αs) (m : Entry) : Prop :=
  ∃ name, m.1 = .ok name ∧ name ∉ r.names ∧ m.2.skipTrouble? = none

/-- The entries hold the values of the record, in its order. -/
inductive Holds : {αs : List Type} → Record αs → Values αs → List Entry → Prop
  | nil : Holds .nil () []
  | cons {α : Type} {αs : List Type} {f : Field α} {r : Record αs} {a : α} {values : Values αs}
      {o : Outline} {ms : List Entry} (hread : f.decode o = .ok a) (h : Holds r values ms) :
      Holds (.cons f r) ((a, values) : α × Values αs) ((.ok f.name, o) :: ms)

/-! ## One member -/

/-- Takes one member of an object. -/
def takeEntry (r : Record αs) (slots : Slots αs) (m : Entry) : Except Trouble (Slots αs) :=
  match m.1 with
  | .error t => .error t
  | .ok name =>
    match r.put? slots name m.2 with
    | some taken => taken
    | none =>
      match m.2.skipTrouble? with
      | some t => .error t
      | none => .ok slots

theorem takeMembers_cons (r : Record αs) (slots : Slots αs) (m : Entry) (ms : List Entry) :
    r.takeMembers slots (m :: ms) =
      (r.takeEntry slots m).bind fun slots => r.takeMembers slots ms := by
  obtain ⟨name, o⟩ := m
  cases name with
  | error t => rfl
  | ok name =>
      simp only [takeMembers, takeEntry]
      cases r.put? slots name o with
      | some taken =>
          cases taken with
          | error t => rfl
          | ok slots => rfl
      | none =>
          cases o.skipTrouble? with
          | some t => rfl
          | none => rfl

variable {α : Type} {f : Field α} {r : Record αs} {slot : Option α} {slots : Slots αs} {m : Entry}

/-- A record takes a member into its first slot if the name is that of the first member, and leaves
it to the others if not. -/
theorem takeEntry_cons_self (h : m.1 = .ok f.name) :
    (cons f r).takeEntry ((slot, slots) : Option α × Slots αs) m =
      match slot with
      | some _ => .error .mismatch
      | none => (f.decode m.2).map fun a => ((some a, slots) : Option α × Slots αs) := by
  simp only [takeEntry, h, put?, if_pos]
  cases slot with
  | some a => rfl
  | none => rfl

theorem takeEntry_cons_of_ne (h : m.1 ≠ .ok f.name) :
    (cons f r).takeEntry ((slot, slots) : Option α × Slots αs) m =
      (r.takeEntry slots m).map fun slots => ((slot, slots) : Option α × Slots αs) := by
  obtain ⟨name, o⟩ := m
  cases name with
  | error t => rfl
  | ok name =>
      have hne : f.name ≠ name := fun he => h (congrArg Except.ok he.symm)
      simp only [takeEntry, put?, if_neg hne]
      cases r.put? slots name o with
      | some taken => rfl
      | none =>
          cases o.skipTrouble? with
          | some t => rfl
          | none => rfl

/-! ## The order of members -/

/-- **Two members that a record takes one after the other it takes in the other order as well.** -/
theorem takeEntry_swap {m n : Entry} {slots middle last : Slots αs}
    (hm : r.takeEntry slots m = .ok middle) (hn : r.takeEntry middle n = .ok last) :
    ∃ middle', r.takeEntry slots n = .ok middle' ∧ r.takeEntry middle' m = .ok last := by
  induction r with
  | nil => exact ⟨slots, hn, hm⟩
  | @cons α αs f r ih =>
      obtain ⟨slot, slots⟩ := slots
      by_cases hmf : m.1 = .ok f.name
      · rw [takeEntry_cons_self hmf] at hm
        cases slot with
        | some a => cases hm
        | none =>
            obtain ⟨a, ha, rfl⟩ := map_eq_ok_iff.1 hm
            -- the second one cannot have the same name, for it would find the slot taken
            have hnf : n.1 ≠ .ok f.name := fun hnf => by
              rw [takeEntry_cons_self hnf] at hn
              cases hn
            rw [takeEntry_cons_of_ne hnf] at hn
            obtain ⟨last, hlast, rfl⟩ := map_eq_ok_iff.1 hn
            refine ⟨(none, last), ?_, ?_⟩
            · rw [takeEntry_cons_of_ne hnf, hlast]
              rfl
            · rw [takeEntry_cons_self hmf, ha]
              rfl
      · rw [takeEntry_cons_of_ne hmf] at hm
        obtain ⟨middle, hmiddle, rfl⟩ := map_eq_ok_iff.1 hm
        by_cases hnf : n.1 = .ok f.name
        · rw [takeEntry_cons_self hnf] at hn
          cases slot with
          | some a => cases hn
          | none =>
              obtain ⟨a, ha, rfl⟩ := map_eq_ok_iff.1 hn
              refine ⟨(some a, slots), ?_, ?_⟩
              · rw [takeEntry_cons_self hnf, ha]
                rfl
              · rw [takeEntry_cons_of_ne hmf, hmiddle]
                rfl
        · rw [takeEntry_cons_of_ne hnf] at hn
          obtain ⟨last, hlast, rfl⟩ := map_eq_ok_iff.1 hn
          obtain ⟨middle', hfirst, hsecond⟩ := ih hmiddle hlast
          refine ⟨(slot, middle'), ?_, ?_⟩
          · rw [takeEntry_cons_of_ne hnf, hfirst]
            rfl
          · rw [takeEntry_cons_of_ne hmf, hsecond]
            rfl

theorem takeMembers_cons_eq_ok_iff {m : Entry} {ms : List Entry} {slots last : Slots αs} :
    r.takeMembers slots (m :: ms) = .ok last ↔
      ∃ middle, r.takeEntry slots m = .ok middle ∧ r.takeMembers middle ms = .ok last := by
  rw [takeMembers_cons]
  cases r.takeEntry slots m with
  | error t => simp [Except.bind]
  | ok middle => simp [Except.bind]

/-- **The order of the members does not matter.** -/
theorem takeMembers_perm {ms ms' : List Entry} (hperm : ms.Perm ms') {slots last : Slots αs}
    (h : r.takeMembers slots ms = .ok last) : r.takeMembers slots ms' = .ok last := by
  -- the slots that are found filled differ from one half of a swap to the other
  induction hperm generalizing slots with
  | nil => exact h
  | cons m _ ih =>
      obtain ⟨middle, hm, hms⟩ := takeMembers_cons_eq_ok_iff.1 h
      exact takeMembers_cons_eq_ok_iff.2 ⟨middle, hm, ih hms⟩
  | swap m n ms =>
      obtain ⟨middle, hn, hrest⟩ := takeMembers_cons_eq_ok_iff.1 h
      obtain ⟨after, hm, hms⟩ := takeMembers_cons_eq_ok_iff.1 hrest
      obtain ⟨middle', hfirst, hsecond⟩ := takeEntry_swap hn hm
      exact takeMembers_cons_eq_ok_iff.2
        ⟨middle', hfirst, takeMembers_cons_eq_ok_iff.2 ⟨after, hsecond, hms⟩⟩
  | trans _ _ ih ih' => exact ih' (ih h)

/-! ## Members of the record and others -/

theorem put?_eq_none {name : String} (h : name ∉ r.names) (slots : Slots αs) (o : Outline) :
    r.put? slots name o = none := by
  induction r with
  | nil => rfl
  | cons f r ih =>
      obtain ⟨slot, slots⟩ := slots
      obtain ⟨hf, hr⟩ := not_or.1 (mt List.mem_cons.2 h)
      simp only [put?, if_neg (Ne.symm hf), ih hr, Option.map_none]

theorem takeEntry_of_foreign {m : Entry} (h : r.Foreign m) (slots : Slots αs) :
    r.takeEntry slots m = .ok slots := by
  obtain ⟨name, hname, hforeign, hskip⟩ := h
  simp only [takeEntry, hname, put?_eq_none hforeign, hskip]

/-- Foreign members that come last change nothing. -/
theorem takeMembers_append_foreign {others : List Entry} (hothers : ∀ m ∈ others, r.Foreign m)
    {ms : List Entry} {slots last : Slots αs} (h : r.takeMembers slots ms = .ok last) :
    r.takeMembers slots (ms ++ others) = .ok last := by
  induction ms generalizing slots with
  | nil =>
      cases h
      induction others with
      | nil => rfl
      | cons m others ih =>
          obtain ⟨hm, hothers⟩ := List.forall_mem_cons.1 hothers
          exact takeMembers_cons_eq_ok_iff.2 ⟨last, takeEntry_of_foreign hm last, ih hothers⟩
  | cons m ms ih =>
      obtain ⟨middle, hm, hms⟩ := takeMembers_cons_eq_ok_iff.1 h
      exact takeMembers_cons_eq_ok_iff.2 ⟨middle, hm, ih hms⟩

theorem Holds.name_mem {values : Values αs} {ms : List Entry} (h : r.Holds values ms) :
    ∀ m ∈ ms, ∃ name ∈ r.names, m.1 = .ok name := by
  induction h with
  | nil => exact fun m hm => absurd hm List.not_mem_nil
  | cons _ _ ih =>
      refine List.forall_mem_cons.2 ⟨⟨_, List.mem_cons_self, rfl⟩, fun m hm => ?_⟩
      obtain ⟨name, hname, heq⟩ := ih m hm
      exact ⟨name, List.mem_cons_of_mem _ hname, heq⟩

/-- Members of other names go past the first slot. -/
theorem takeMembers_cons_of_forall_ne {ms : List Entry} (h : ∀ m ∈ ms, m.1 ≠ .ok f.name)
    {last : Slots αs} (hr : r.takeMembers slots ms = .ok last) :
    (cons f r).takeMembers ((slot, slots) : Option α × Slots αs) ms =
      .ok ((slot, last) : Option α × Slots αs) := by
  induction ms generalizing slots with
  | nil =>
      cases hr
      rfl
  | cons m ms ih =>
      obtain ⟨hm, h⟩ := List.forall_mem_cons.1 h
      obtain ⟨middle, hmiddle, hms⟩ := takeMembers_cons_eq_ok_iff.1 hr
      refine takeMembers_cons_eq_ok_iff.2 ⟨(slot, middle), ?_, ih h hms⟩
      rw [takeEntry_cons_of_ne hm, hmiddle]
      rfl

/-- A record with different names finds all its values. -/
theorem takeMembers_of_holds {values : Values αs} {ms : List Entry} (h : r.Holds values ms)
    (hnames : r.names.Nodup) :
    ∃ slots, r.takeMembers r.empty ms = .ok slots ∧ r.complete slots = .ok values := by
  induction h with
  | nil => exact ⟨(), rfl, rfl⟩
  | @cons α αs f r a values o ms hread hholds ih =>
      obtain ⟨hfirst, hnames⟩ := List.nodup_cons.1 hnames
      obtain ⟨slots, htake, hcomplete⟩ := ih hnames
      have hne : ∀ m ∈ ms, m.1 ≠ .ok f.name := fun m hm he => by
        obtain ⟨name, hname, heq⟩ := hholds.name_mem m hm
        rw [heq, Except.ok.injEq] at he
        exact hfirst (he ▸ hname)
      refine ⟨(some a, slots), takeMembers_cons_eq_ok_iff.2 ⟨(some a, r.empty), ?_, ?_⟩, ?_⟩
      · simp only [empty]
        rw [takeEntry_cons_self rfl]
        simp only [hread]
        rfl
      · exact takeMembers_cons_of_forall_ne hne htake
      · simp only [complete, hcomplete]
        rfl

/-- **A record is read from an object that holds its values**, in any order and among members of
other names. -/
theorem decode_object {values : Values αs} {ms others ms' : List Entry} (h : r.Holds values ms)
    (hnames : r.names.Nodup) (hothers : ∀ m ∈ others, r.Foreign m)
    (hperm : (ms ++ others).Perm ms') : r.decode (.object ms' none) = .ok values := by
  obtain ⟨slots, htake, hcomplete⟩ := takeMembers_of_holds h hnames
  have hall : r.takeMembers r.empty ms' = .ok slots :=
    takeMembers_perm hperm (takeMembers_append_foreign hothers htake)
  simp only [decode, hall, hcomplete]

end Record
end SessionAuth.Json
