import SessionAuth.Json.Decode
import SessionAuth.Json.Value

/-!
# Users and roles

A user is known by an email address and proves it with a password, of which only a digest is kept.
An account that is switched off or deleted stays stored. What a user may do is said by roles,
which are stored apart from the user; the list in the user's own row is filled when it is needed.
-/

set_option autoImplicit false

namespace SessionAuth

structure Role where
  id : Uuid
  name : String
  description : Option String
  createdAt : Instant
  updatedAt : Instant
  deriving DecidableEq

structure User where
  id : Uuid
  email : String
  passwordDigest : String
  isActive : Bool
  createdAt : Instant
  updatedAt : Instant
  deletedAt : Option Instant
  roles : List Role
  deriving DecidableEq

/-- The names of some roles, those without a name left out. -/
def Role.names (roles : List Role) : List String := (roles.map Role.name).filter (· != "")

namespace User

/-- The account has been deleted and is not to be seen any more. -/
def isDeleted (u : User) : Bool := u.deletedAt.isSome

def roleNames (u : User) : List String := Role.names u.roles

end User

/-! ## JSON forms -/

namespace Role

def toJson (r : Role) : Json :=
  .object [("id", .string r.id.text), ("name", .string r.name),
    ("description", .ofString? r.description), ("created_at", .string r.createdAt.timestamp),
    ("updated_at", .string r.updatedAt.timestamp)]

def record : Json.Record [Uuid, String, Option String, Instant, Instant] :=
  .cons { name := "id", decode := .uuid } <|
  .cons { name := "name", decode := .string } <|
  .cons { name := "description", decode := .optional .string, absent := some none } <|
  .cons { name := "created_at", decode := .instant } <|
  .cons { name := "updated_at", decode := .instant } .nil

def decode : Json.Decoder Role := fun o =>
  (record.decode o).map fun (id, name, description, createdAt, updatedAt, ()) =>
    ⟨id, name, description, createdAt, updatedAt⟩

end Role

namespace User

/-- The JSON form of a user, without the digest of the password. -/
def toJson (u : User) : Json :=
  .object [("id", .string u.id.text), ("email", .string u.email), ("is_active", .bool u.isActive),
    ("created_at", .string u.createdAt.timestamp), ("updated_at", .string u.updatedAt.timestamp),
    ("deleted_at", .ofString? (u.deletedAt.map Instant.timestamp)),
    ("roles", .array (u.roles.map Role.toJson))]

/-- The members of a user; the digest of the password has to be given. -/
def record : Json.Record
    [Uuid, String, String, Bool, Instant, Instant, Option Instant, List Role] :=
  .cons { name := "id", decode := .uuid } <|
  .cons { name := "email", decode := .string } <|
  .cons { name := "password_hash", decode := .string } <|
  .cons { name := "is_active", decode := .bool } <|
  .cons { name := "created_at", decode := .instant } <|
  .cons { name := "updated_at", decode := .instant } <|
  .cons { name := "deleted_at", decode := .optional .instant, absent := some none } <|
  .cons { name := "roles", decode := .list Role.decode, absent := some [], short := some [] } .nil

def decode : Json.Decoder User := fun o =>
  (record.decode o).map
    fun (id, email, passwordDigest, isActive, createdAt, updatedAt, deletedAt, roles, ()) =>
      ⟨id, email, passwordDigest, isActive, createdAt, updatedAt, deletedAt, roles⟩

end User

end SessionAuth
