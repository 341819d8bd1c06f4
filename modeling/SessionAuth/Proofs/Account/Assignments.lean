import Mathlib.Data.List.Induction
import SessionAuth.Proofs.Api.Login
import SessionAuth.Proofs.Service.Verdict

set_option autoImplicit false

/-! # What becomes of assigned roles

Any roles are assigned to any users, one after the other. A user ends up with those roles that were
the first of their name among the ones assigned to this user (`Directory.mem_rolesOf_assignAll`).
As the list ascends, nothing else can be said about it: it depends neither on what others are
assigned nor on the order of assignments whose names differ, and it never loses a role
(`Directory.roles_after_assignments`). Identities and logins show the names of this very list, the
empty one left out.
-/

namespace SessionAuth

/-! ## The first of a name -/

namespace Role

variable {r role : Role} {given : List Role}

/-- The role stands among some roles, and in front of it none of its name. -/
def FirstOf (r : Role) (given : List Role) : Prop :=
  ∃ before after, given = before ++ r :: after ∧ ∀ x ∈ before, x.name ≠ r.name

theorem firstOf_iff_find? :
    r.FirstOf given ↔ given.find? (fun x => x.name == r.name) = some r := by
  rw [List.find?_eq_some_iff_append]
  simp [FirstOf]

theorem FirstOf.mem (h : r.FirstOf given) : r ∈ given := by
  obtain ⟨before, after, rfl, -⟩ := h
  simp

/-- What comes later makes no difference to what was first. -/
theorem FirstOf.append (h : r.FirstOf given) (later : List Role) : r.FirstOf (given ++ later) := by
  obtain ⟨before, after, rfl, hbefore⟩ := h
  exact ⟨before, after ++ later, by simp, hbefore⟩

/-- Of every name that occurs there is a first role. -/
theorem exists_firstOf (h : role ∈ given) : ∃ r : Role, r.FirstOf given ∧ r.name = role.name := by
  cases hfind : given.find? (fun x => x.name == role.name) with
  | none => exact absurd (beq_self_eq_true role.name) (List.find?_eq_none.1 hfind role h)
  | some r =>
      have hname : r.name = role.name := by simpa using List.find?_some hfind
      exact ⟨r, firstOf_iff_find?.2 (hname ▸ hfind), hname⟩

/-- A role at the end is the first of its name if no other role has the name. -/
theorem firstOf_append_singleton :
    r.FirstOf (given ++ [role]) ↔
      r.FirstOf given ∨ r = role ∧ ∀ x ∈ given, x.name ≠ role.name := by
  constructor
  · rintro ⟨before, after, hsplit, hbefore⟩
    rcases List.eq_nil_or_concat after with rfl | ⟨after, last, rfl⟩
    · obtain ⟨rfl, hlast⟩ := List.append_inj' hsplit rfl
      cases hlast
      exact Or.inr ⟨rfl, hbefore⟩
    · have hgiven : given ++ [role] = (before ++ r :: after) ++ [last] := by
        rw [hsplit]
        simp
      exact Or.inl ⟨before, after, (List.append_inj' hgiven rfl).1, hbefore⟩
  · rintro (h | ⟨rfl, hnew⟩)
    · exact h.append [role]
    · exact ⟨given, [], rfl, hnew⟩

/-- Among roles whose names differ every one is the first of its name. -/
theorem firstOf_iff_mem (h : (given.map Role.name).Nodup) : r.FirstOf given ↔ r ∈ given := by
  refine ⟨FirstOf.mem, fun hmem => ?_⟩
  obtain ⟨before, after, rfl⟩ := List.append_of_mem hmem
  rw [List.map_append, List.nodup_append] at h
  refine ⟨before, after, rfl, fun x hx heq => ?_⟩
  exact h.2.2 x.name (List.mem_map_of_mem hx) r.name (by simp) heq

/-- The names of roles that ascend are all their names but the empty one. -/
theorem names_eq_erase {rs : List Role} (h : Ascending rs) :
    names rs = (rs.map Role.name).erase "" := by
  have hnodup : (rs.map Role.name).Nodup := (List.pairwise_map.2 h).imp String.ne_of_lt
  rw [hnodup.erase_eq_filter]
  rfl

end Role

/-! ## Assignments -/

/-- A role for a user. -/
structure Assignment where
  user : Uuid
  role : Role

namespace Directory

variable {users : Table User.id} {r role : Role} {rs given : List Role}

/-- **What an assignment does to a list of roles**: the role is added if its name is new. -/
theorem mem_withRole :
    r ∈ withRole role rs ↔ r ∈ rs ∨ r = role ∧ ∀ x ∈ rs, x.name ≠ role.name := by
  unfold withRole
  by_cases hany : (rs.any fun x => x.name == role.name) = true
  · obtain ⟨x, hx, hname⟩ := List.any_eq_true.1 hany
    rw [if_pos hany]
    refine ⟨Or.inl, ?_⟩
    rintro (h | ⟨-, hnew⟩)
    · exact h
    · exact absurd (beq_iff_eq.1 hname) (hnew x hx)
  · have hnew : ∀ x ∈ rs, x.name ≠ role.name := fun x hx hname =>
      hany (List.any_eq_true.2 ⟨x, hx, beq_iff_eq.2 hname⟩)
    rw [if_neg hany, mem_insertByName]
    constructor
    · rintro (h | h)
      · exact Or.inr ⟨h, hnew⟩
      · exact Or.inl h
    · rintro (h | ⟨h, -⟩)
      · exact Or.inr h
      · exact Or.inl h

/-- The list of somebody without roles who is given some, one after the other. -/
def gathered (given : List Role) : List Role := given.foldl (fun rs role => withRole role rs) []

theorem gathered_append_singleton (given : List Role) (role : Role) :
    gathered (given ++ [role]) = withRole role (gathered given) := List.foldl_append

/-- **What any number of assignments does**: of every name the first role is kept. -/
theorem mem_gathered : r ∈ gathered given ↔ r.FirstOf given := by
  -- the last assignment is taken off, and `r` is left general
  induction given using List.reverseRecOn generalizing r with
  | nil => simp [gathered, Role.FirstOf]
  | append_singleton given role ih =>
      have hnew : (∀ x ∈ gathered given, x.name ≠ role.name) ↔ ∀ x ∈ given, x.name ≠ role.name := by
        constructor
        · intro h x hx hname
          obtain ⟨y, hy, hyname⟩ := Role.exists_firstOf hx
          exact h y (ih.2 hy) (hyname.trans hname)
        · exact fun h x hx => h x (ih.1 hx).mem
      rw [gathered_append_singleton, mem_withRole, ih, hnew, Role.firstOf_append_singleton]

/-- The directory in which nobody has a role yet. -/
def ofUsers (users : Table User.id) : Directory := ⟨users, fun _ => []⟩

/-- The directory after some assignments. -/
def assignAll (d : Directory) (as : List Assignment) : Directory :=
  as.foldl (fun d a => d.assignRole a.user a.role) d

/-- What a user is assigned, in the order of the assignments. -/
def assignedTo (id : Uuid) (as : List Assignment) : List Role :=
  (as.filter fun a => a.user = id).map Assignment.role

theorem assignAll_append (d : Directory) (as later : List Assignment) :
    d.assignAll (as ++ later) = (d.assignAll as).assignAll later := List.foldl_append

theorem assignedTo_append (id : Uuid) (as later : List Assignment) :
    assignedTo id (as ++ later) = assignedTo id as ++ assignedTo id later := by
  rw [assignedTo, List.filter_append, List.map_append]
  rfl

theorem mem_assignedTo {id : Uuid} {as : List Assignment} :
    role ∈ assignedTo id as ↔ ∃ a ∈ as, a.user = id ∧ a.role = role := by
  simp [assignedTo, and_assoc]

/-- A user gets what is assigned to this user, and nothing else. -/
theorem rolesOf_assignAll (d : Directory) (as : List Assignment) (id : Uuid) :
    (d.assignAll as).rolesOf id =
      (assignedTo id as).foldl (fun rs role => withRole role rs) (d.rolesOf id) := by
  induction as generalizing d with
  | nil => rfl
  | cons a as ih =>
      have hstep : (d.assignRole a.user a.role).rolesOf id =
          if id = a.user then withRole a.role (d.rolesOf id) else d.rolesOf id := rfl
      refine (ih _).trans ?_
      by_cases hid : a.user = id
      · rw [hstep, if_pos hid.symm, assignedTo, assignedTo,
          List.filter_cons_of_pos (by simpa using hid)]
        rfl
      · rw [hstep, if_neg (Ne.symm hid), assignedTo, assignedTo,
          List.filter_cons_of_neg (by simpa using hid)]

/-- Where nobody had a role, a user has those that were assigned as the first of their name. -/
theorem mem_rolesOf_assignAll {as : List Assignment} {id : Uuid} :
    r ∈ ((ofUsers users).assignAll as).rolesOf id ↔ r.FirstOf (assignedTo id as) := by
  rw [rolesOf_assignAll]
  exact mem_gathered

theorem rolesAscend_assignAll {d : Directory} (hd : d.RolesAscend) (as : List Assignment) :
    (d.assignAll as).RolesAscend := by
  induction as generalizing d with
  | nil => exact hd
  | cons a as ih => exact ih (rolesAscend_assignRole hd a.user a.role)

/-- The order of assignments to a user does not matter if their names differ. -/
theorem rolesOf_assignAll_perm {as as' : List Assignment} {id : Uuid} (h : as'.Perm as)
    (hnames : ((assignedTo id as).map Role.name).Nodup) :
    ((ofUsers users).assignAll as').rolesOf id = ((ofUsers users).assignAll as).rolesOf id := by
  have hstart : (ofUsers users).RolesAscend := fun _ => List.Pairwise.nil
  have hgiven : (assignedTo id as').Perm (assignedTo id as) := (h.filter _).map _
  have hnames' : ((assignedTo id as').map Role.name).Nodup :=
    (hgiven.map Role.name).nodup_iff.2 hnames
  refine eq_of_ascending_by Role.name (rolesAscend_assignAll hstart as' id)
    (rolesAscend_assignAll hstart as id) fun r => ?_
  rw [mem_rolesOf_assignAll, mem_rolesOf_assignAll, Role.firstOf_iff_mem hnames',
    Role.firstOf_iff_mem hnames, hgiven.mem_iff]

/-- Assignments to others change nothing for a user. -/
theorem rolesOf_assignAll_of_others (d : Directory) {as : List Assignment} {id : Uuid}
    (h : ∀ a ∈ as, a.user ≠ id) : (d.assignAll as).rolesOf id = d.rolesOf id := by
  have hnothing : assignedTo id as = [] := by
    rw [assignedTo, List.filter_eq_nil_iff.2 fun a ha => by simpa using h a ha]
    rfl
  rw [rolesOf_assignAll, hnothing]
  rfl

end Directory

/-! ## What is shown of the roles -/

/-- An identity names the roles that its user has at the moment. -/
theorem Guard.roles_of_authenticate {w : World} {name : String} {hs : Headers} {i : Identity}
    (h : ((authenticate name hs).run w).1 = .ok i) :
    i.roles = Role.names (w.users.rolesOf i.userId) := by
  obtain ⟨id, hid⟩ := exists_presented_of_passes h
  obtain ⟨-, row, owner, -, rfl⟩ := (authenticate_succeeds_iff hid i).1 h
  rfl

/-- Who logs in gets the roles of the moment. -/
theorem Service.roles_of_authenticate {s : Service} {w : World} {email password : String}
    {client : Metadata} {user : User} {session : Session}
    (h : ((s.authenticate email password client).run w).1 = .ok (user, session)) :
    user.roles = w.users.rolesOf user.id := by
  obtain ⟨u, expiry, -, rfl, -⟩ := of_run_authenticate_eq_ok (Prod.ext h rfl)
  rfl

namespace Directory

/-- **The roles of a user after any assignments.** Let roles be assigned to users, any number of
them and whatever their names, where nobody had a role before.

* The names of a user's roles strictly ascend, and they are the names that were assigned to the
  user. Every role is the first of its name that was assigned to the user.
* Further assignments take no role away, and if they are made to others they add none.
* If the names that were assigned to the user differ, the order of the assignments does not matter.
* The names without the empty one strictly ascend as well. Identities and logins carry just these.
-/
theorem roles_after_assignments (users : Table User.id) (as : List Assignment) (id : Uuid) :
    let d := (ofUsers users).assignAll as
    let roles := d.rolesOf id
    let named := (roles.map Role.name).erase ""
    (roles.Pairwise fun a b => a.name < b.name) ∧
    (∀ n, n ∈ roles.map Role.name ↔ ∃ a ∈ as, a.user = id ∧ a.role.name = n) ∧
    (∀ r ∈ roles, r.FirstOf (assignedTo id as)) ∧
    (∀ later, roles ⊆ (d.assignAll later).rolesOf id) ∧
    (∀ later : List Assignment, (∀ a ∈ later, a.user ≠ id) →
      (d.assignAll later).rolesOf id = roles) ∧
    (((assignedTo id as).map Role.name).Nodup →
      ∀ as', as'.Perm as → ((ofUsers users).assignAll as').rolesOf id = roles) ∧
    named.Pairwise (· < ·) ∧ Role.names roles = named ∧
    ∀ w : World, w.users = d →
      (∀ name hs i, ((Guard.authenticate name hs).run w).1 = .ok i → i.userId = id →
        i.roles = named) ∧
      (∀ s email password client user session,
        ((Service.authenticate s email password client).run w).1 = .ok (user, session) →
          user.id = id → user.roles = roles ∧ user.roleNames = named) := by
  intro d roles named
  have hstart : (ofUsers users).RolesAscend := fun _ => List.Pairwise.nil
  have hascend : Role.Ascending roles := rolesAscend_assignAll hstart as id
  have hnames : Role.names roles = named := Role.names_eq_erase hascend
  refine ⟨hascend, fun n => ?_, fun r hr => mem_rolesOf_assignAll.1 hr, fun later r hr => ?_,
    fun later => rolesOf_assignAll_of_others d, fun hnodup as' h => rolesOf_assignAll_perm h hnodup,
    hnames ▸ Role.names_pairwise_lt hascend, hnames, fun w hw => ⟨?_, ?_⟩⟩
  · constructor
    · intro hn
      obtain ⟨r, hr, rfl⟩ := List.mem_map.1 hn
      obtain ⟨a, ha, huser, rfl⟩ := mem_assignedTo.1 (mem_rolesOf_assignAll.1 hr).mem
      exact ⟨a, ha, huser, rfl⟩
    · rintro ⟨a, ha, huser, rfl⟩
      obtain ⟨r, hfirst, hname⟩ := Role.exists_firstOf (mem_assignedTo.2 ⟨a, ha, huser, rfl⟩)
      exact List.mem_map.2 ⟨r, mem_rolesOf_assignAll.2 hfirst, hname⟩
  · have hfirst := (mem_rolesOf_assignAll.1 hr).append (assignedTo id later)
    rw [← assignedTo_append] at hfirst
    rw [← assignAll_append]
    exact mem_rolesOf_assignAll.2 hfirst
  · rintro name hs i hi rfl
    rw [Guard.roles_of_authenticate hi, hw, hnames]
  · rintro s email password client user session h rfl
    have hroles : user.roles = roles := by rw [Service.roles_of_authenticate h, hw]
    exact ⟨hroles, by rw [User.roleNames, hroles, hnames]⟩

/-- The roles of the small world were assigned to its user. With a second role of the same name and
one for somebody else they are as before, in whatever order the first two are assigned, and the user
passes and logs in with the one that has a name. -/
theorem roles_after_assignments_small :
    let user : Role := ⟨.ofNat 1, "user", none, .epoch, .epoch⟩
    let nameless : Role := ⟨.ofNat 2, "", none, .epoch, .epoch⟩
    let lodgers : Table User.id := (Table.empty User.id).put World.lodger
    let as : List Assignment := [⟨World.lodger.id, user⟩, ⟨World.lodger.id, nameless⟩]
    let others : List Assignment := [⟨.ofNat 8, user⟩]
    let d := (ofUsers lodgers).assignAll as
    World.small.users = d ∧ d.rolesOf World.lodger.id = [nameless, user] ∧
      (d.assignAll others).rolesOf World.lodger.id = [nameless, user] ∧
      ((ofUsers lodgers).assignAll as.reverse).rolesOf World.lodger.id = [nameless, user] ∧
      user ∈ (d.assignAll [⟨World.lodger.id, { user with id := .ofNat 3 }⟩]).rolesOf
        World.lodger.id ∧
      (∃ i, ((Guard.authenticate "session_id" [⟨"Cookie", Text.utf8
        "session_id=00000000-0000-0000-0000-000000000005"⟩]).run World.small).1 = .ok i ∧
          i.roles = ["user"]) ∧
      ∃ u session, ((Service.plain.authenticate "a@b.com" "secret" {}).run World.small).1 =
        .ok (u, session) ∧ u.roleNames = ["user"] := by
  intro user nameless lodgers as others d
  have husers : World.small.users = d := rfl
  have hroles : d.rolesOf World.lodger.id = [nameless, user] := by decide
  obtain ⟨-, -, -, hlater, hothers, horder, -, -, hshown⟩ :=
    roles_after_assignments lodgers as World.lodger.id
  obtain ⟨hidentity, hlogin⟩ := hshown World.small husers
  have hnamed : ((d.rolesOf World.lodger.id).map Role.name).erase "" = ["user"] := by decide
  have hpasses : ((Guard.authenticate "session_id" [⟨"Cookie", Text.utf8
      "session_id=00000000-0000-0000-0000-000000000005"⟩]).run World.small).1 =
        .ok ⟨World.lodger.id, "a@b.com", ["user"], World.stay.id⟩ := by decide
  have hadmits : Service.plain.Admits World.small "a@b.com" "secret" World.lodger :=
    ⟨by decide, by decide, rfl⟩
  obtain ⟨expiry, hexpiry⟩ : ∃ expiry, World.small.now.add? Service.plain.sessionTtl = some expiry :=
    Option.isSome_iff_exists.1 (by decide)
  have hgiven : ¬ (Text.trimmed "a@b.com" = "" ∨ "secret" = "") := by decide
  have hrun := congrArg Prod.fst <| Service.run_authenticate_of_admits World.small_healthy hgiven
    hadmits hexpiry (by decide) {}
  refine ⟨husers, hroles, ?_, ?_, hlater _ ?_, ⟨_, hpasses, ?_⟩, ⟨_, _, hrun, ?_⟩⟩
  · rw [hothers others (by decide), hroles]
  · rw [horder (by decide) as.reverse as.reverse_perm, hroles]
  · rw [hroles]
    decide
  · exact (hidentity _ _ _ hpasses rfl).trans hnamed
  · exact (hlogin _ _ _ _ _ _ hrun rfl).2.trans hnamed

end Directory

end SessionAuth
