import SessionAuth.Account.User
import SessionAuth.Fault
import SessionAuth.Table

/-!
# The directory of users

The directory holds the users, told apart by their identifiers, and for every user a list of
roles. A deleted user stays stored and is never found. Roles are assigned by name: a name that the
user already has is not assigned again, and the list stays in the order of the names.

The stamps that an operation leaves on a row are given to it as an argument.
-/

set_option autoImplicit false

namespace SessionAuth

/-- The stored users and the roles assigned to each of them. -/
structure Directory where
  users : Table User.id
  roles : Uuid → List Role

namespace Directory

def empty : Directory := ⟨.empty User.id, fun _ => []⟩

/-! ## Finding -/

/-- The user with an identifier who has not been deleted. -/
def findById (d : Directory) (id : Uuid) : Option User :=
  (d.users.get? id).filter fun u => !u.isDeleted

/-- The first user with exactly this email who has not been deleted. -/
def findByEmail (d : Directory) (email : String) : Option User :=
  d.users.rows.find? fun u => u.email == email && !u.isDeleted

/-- The roles of a user, in the order of their names. -/
def rolesOf (d : Directory) (id : Uuid) : List Role := d.roles id

/-! ## Keeping -/

/-- Stores a user in the place of the one with the same identifier. -/
def insert (d : Directory) (u : User) : Directory := { d with users := d.users.put u }

/-- Puts a role in front of the first one with a later name. -/
def insertByName (role : Role) : List Role → List Role
  | [] => [role]
  | r :: rs => if role.name < r.name then role :: r :: rs else r :: insertByName role rs

/-- The list with a role, unless its name is there already. -/
def withRole (role : Role) (rs : List Role) : List Role :=
  if rs.any fun r => r.name == role.name then rs else insertByName role rs

/-- Assigns a role to a user, whether or not the user is stored. -/
def assignRole (d : Directory) (id : Uuid) (role : Role) : Directory :=
  { d with roles := fun k => if k = id then withRole role (d.roles k) else d.roles k }

def change (d : Directory) (id : Uuid) (f : User → User) : Except Fault Directory :=
  match d.users.get? id with
  | some u => .ok (d.insert (f u))
  | none => .error (.database ("user " ++ id.text ++ " not found"))

def setActive (d : Directory) (id : Uuid) (active : Bool) (stamp : Instant) :
    Except Fault Directory :=
  d.change id fun u => { u with isActive := active, updatedAt := stamp }

/-- Deletes a user; the row stays. -/
def softDelete (d : Directory) (id : Uuid) (stamp : Instant) : Except Fault Directory :=
  d.change id fun u => { u with deletedAt := some stamp }

/-! ## What is found -/

theorem findById_eq_some_iff {d : Directory} {id : Uuid} {u : User} :
    d.findById id = some u ↔ d.users.get? id = some u ∧ u.isDeleted = false := by
  simp [findById, Option.filter_eq_some_iff]

theorem id_of_findById {d : Directory} {id : Uuid} {u : User} (h : d.findById id = some u) :
    u.id = id := Table.key_of_get? (findById_eq_some_iff.1 h).1

theorem email_of_findByEmail {d : Directory} {email : String} {u : User}
    (h : d.findByEmail email = some u) : u.email = email ∧ u.isDeleted = false := by
  simpa using List.find?_some h

theorem mem_of_findByEmail {d : Directory} {email : String} {u : User}
    (h : d.findByEmail email = some u) : u ∈ d.users.rows := List.mem_of_find?_eq_some h

theorem mem_insertByName {role r : Role} {rs : List Role} :
    r ∈ insertByName role rs ↔ r = role ∨ r ∈ rs := by
  induction rs with
  | nil => simp [insertByName]
  | cons s rs ih =>
    unfold insertByName
    split
    · simp
    · simp only [List.mem_cons, ih]
      constructor
      · rintro (h | h | h) <;> simp [h]
      · rintro (h | h | h) <;> simp [h]

end Directory

end SessionAuth
