import SessionAuth.Account.Directory
import SessionAuth.Text.Blank

/-!
# Seeding an administrator

A directory for development starts with one account that may do everything. Seeding is safe to
repeat: an account that already has the email is left as it is, whatever its password and whether
or not it is switched on.
-/

set_option autoImplicit false

namespace SessionAuth

def Role.admin (id : Uuid) (stamp : Instant) : Role :=
  ⟨id, "admin", some "Super administrator with all permissions.", stamp, stamp⟩

/-- A new account that is switched on and has no roles. -/
def User.fresh (id : Uuid) (email digest : String) (stamp : Instant) : User :=
  ⟨id, email, digest, true, stamp, stamp, none, []⟩

namespace Directory

/-- The account of an administrator, stored under `id` if there is none with the email yet, and
the directory with it. -/
def seedAdmin (d : Directory) (hash : String → String) (id roleId : Uuid) (stamp : Instant)
    (email password : String) : Except Fault (User × Directory) :=
  let email := Text.trimmed email
  if email = "" ∨ password = "" then
    .error (.invalidRequest "seed admin email and password must be set")
  else
    match d.findByEmail email with
    | some u => .ok (u, d)
    | none =>
      let u := User.fresh id email (hash password) stamp
      .ok (u, (d.insert u).assignRole id (.admin roleId stamp))

end Directory

end SessionAuth
