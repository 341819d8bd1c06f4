import SessionAuth.Json.Decode
import SessionAuth.Json.Value
import SessionAuth.Session.Basic

/-!
# Sessions as JSON
-/

set_option autoImplicit false

namespace SessionAuth.Session

def toJson (s : Session) : Json :=
  .object [("id", .string s.id.text), ("user_id", .string s.userId.text),
    ("expires_at", .string s.expiresAt.timestamp),
    ("revoked_at", .ofString? (s.revokedAt.map Instant.timestamp)),
    ("created_at", .string s.createdAt.timestamp), ("user_agent", .ofString? s.userAgent),
    ("ip_address", .ofString? s.ipAddress)]

def record : Json.Record
    [Uuid, Uuid, Instant, Option Instant, Instant, Option String, Option String] :=
  .cons { name := "id", decode := .uuid } <|
  .cons { name := "user_id", decode := .uuid } <|
  .cons { name := "expires_at", decode := .instant } <|
  .cons { name := "revoked_at", decode := .optional .instant, absent := some none } <|
  .cons { name := "created_at", decode := .instant } <|
  .cons { name := "user_agent", decode := .optional .string, absent := some none } <|
  .cons { name := "ip_address", decode := .optional .string, absent := some none } .nil

def decode : Json.Decoder Session := fun o =>
  (record.decode o).map
    fun (id, userId, expiresAt, revokedAt, createdAt, userAgent, ipAddress, ()) =>
      ⟨id, userId, expiresAt, revokedAt, createdAt, userAgent, ipAddress⟩

end SessionAuth.Session
