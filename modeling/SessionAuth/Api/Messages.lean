import SessionAuth.Json.Decode
import SessionAuth.Json.Value

/-!
# What clients send and are sent

A client logs in with an email and a password; a member that it leaves out counts as empty. It is
answered with an envelope that repeats the status and carries a message and, if there is any,
data, such as a summary of a user.
-/

set_option autoImplicit false

namespace SessionAuth

structure LoginRequest where
  email : String
  password : String
  deriving DecidableEq, Repr

namespace LoginRequest

def toJson (r : LoginRequest) : Json :=
  .object [("email", .string r.email), ("password", .string r.password)]

def record : Json.Record [String, String] :=
  .cons { name := "email", decode := .string, absent := some "", short := some "" } <|
  .cons { name := "password", decode := .string, absent := some "", short := some "" } .nil

def decode : Json.Decoder LoginRequest := fun o =>
  (record.decode o).map fun (email, password, ()) => ⟨email, password⟩

end LoginRequest

/-- What a client is told of a user. -/
structure UserSummary where
  id : Uuid
  email : String
  roles : List String
  deriving DecidableEq

namespace UserSummary

def toJson (u : UserSummary) : Json :=
  .object [("id", .string u.id.text), ("email", .string u.email),
    ("roles", .array (u.roles.map .string))]

def record : Json.Record [Uuid, String, List String] :=
  .cons { name := "id", decode := .uuid } <|
  .cons { name := "email", decode := .string } <|
  .cons { name := "roles", decode := .list .string } .nil

def decode : Json.Decoder UserSummary := fun o =>
  (record.decode o).map fun (id, email, roles, ()) => ⟨id, email, roles⟩

end UserSummary

structure Envelope (α : Type) where
  status : Nat := 200
  message : String
  data : Option α

namespace Envelope

def toJson {α : Type} (data : α → Json) (e : Envelope α) : Json :=
  .object [("status", .number e.status), ("message", .string e.message),
    ("data", match e.data with
      | some a => data a
      | none => .null)]

/-- The members of an envelope; the status fits sixteen bits. -/
def record {α : Type} (d : Json.Decoder α) : Json.Record [Nat, String, Option α] :=
  .cons { name := "status", decode := .natural UInt16.size } <|
  .cons { name := "message", decode := .string } <|
  .cons { name := "data", decode := .optional d, absent := some none } .nil

def decode {α : Type} (d : Json.Decoder α) : Json.Decoder (Envelope α) := fun o =>
  ((record d).decode o).map fun (status, message, data, ()) => ⟨status, message, data⟩

end Envelope

end SessionAuth
