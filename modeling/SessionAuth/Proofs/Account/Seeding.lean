import SessionAuth.Account.Seed
import SessionAuth.Proofs.Account.Uniqueness
import SessionAuth.Proofs.Service.Credentials

set_option autoImplicit false

/-! # The seeded administrator

Seeding an email that nobody has adds one account (`Directory.seedAdmin_of_unknown`), which the
email finds from then on (`Directory.findByEmail_withAdmin`), and gives it one role
(`Directory.rolesOf_withAdmin`). Afterwards a password that fits the digest is admitted
(`Service.admits_seeded`) and every other is refused (`Service.refusal_seeded`).

Whether the account is new or was there before, the email finds it after it was seeded
(`Directory.findByEmail_of_seedAdmin_eq_ok`). So seeding again changes nothing, any number of times
(`Directory.seedAll_of_found`), and all in all a directory is settled by seeding it once
(`Directory.seedAdmin_settles`).
-/

namespace SessionAuth

namespace Directory

variable {d : Directory} {id : Uuid}

/-- Nobody is stored under the identifier, and it has no roles. -/
structure Unused (d : Directory) (id : Uuid) : Prop where
  unstored : d.users.get? id = none
  roleless : d.rolesOf id = []

/-- The directory with the account of an administrator. -/
def withAdmin (d : Directory) (id roleId : Uuid) (stamp : Instant) (email digest : String) :
    Directory :=
  (d.insert (.fresh id email digest stamp)).assignRole id (.admin roleId stamp)

theorem seedAdmin_of_unknown {email password : String}
    (hemail : Text.trimmed email ≠ "") (hpassword : password ≠ "")
    (hunknown : d.findByEmail (Text.trimmed email) = none) (hash : String → String)
    (id roleId : Uuid) (stamp : Instant) :
    d.seedAdmin hash id roleId stamp email password =
      .ok (.fresh id (Text.trimmed email) (hash password) stamp,
        d.withAdmin id roleId stamp (Text.trimmed email) (hash password)) := by
  unfold seedAdmin
  dsimp only
  rw [if_neg (not_or.2 ⟨hemail, hpassword⟩), hunknown]
  rfl

/-- A user under a new identifier, with an email that nobody has, is found by it. -/
theorem findByEmail_insert {u : User} (hunknown : d.findByEmail u.email = none)
    (hfree : d.users.get? u.id = none) (hvisible : u.isDeleted = false) :
    (d.insert u).findByEmail u.email = some u := by
  have hrows : (d.insert u).users.rows = d.users.rows ++ [u] :=
    Table.rows_put_of_get?_eq_none hfree
  unfold findByEmail at *
  rw [hrows, List.find?_append, hunknown]
  simp [hvisible]

theorem findByEmail_withAdmin {email : String} (hid : d.Unused id)
    (hunknown : d.findByEmail email = none) (roleId : Uuid) (stamp : Instant) (digest : String) :
    (d.withAdmin id roleId stamp email digest).findByEmail email =
      some (.fresh id email digest stamp) :=
  findByEmail_insert (u := .fresh id email digest stamp) hunknown hid.unstored rfl

/-- Who had no role is given one. -/
theorem rolesOf_withAdmin (hid : d.Unused id) (roleId : Uuid) (stamp : Instant)
    (email digest : String) :
    (d.withAdmin id roleId stamp email digest).rolesOf id = [.admin roleId stamp] := by
  have hroles : d.roles id = [] := hid.roleless
  show (if id = id then withRole (.admin roleId stamp) (d.roles id) else d.roles id) = _
  rw [if_pos rfl, hroles]
  rfl

end Directory

namespace Service

variable {s : Service} {w : World} {d : Directory} {id roleId : Uuid} {stamp : Instant}
  {email password digest : String}

/-- **Who was seeded is admitted** with every password that fits the digest. -/
theorem admits_seeded (hid : d.Unused id) (hunknown : d.findByEmail email = none)
    (hw : w.users = d.withAdmin id roleId stamp email digest)
    (hverified : s.verify digest password = true) :
    s.Admits w email password (.fresh id email digest stamp) where
  found := hw ▸ Directory.findByEmail_withAdmin hid hunknown roleId stamp digest
  verified := hverified
  active := rfl

/-- Who was seeded is refused with every other password. -/
theorem refusal_seeded (hid : d.Unused id) (hunknown : d.findByEmail email = none)
    (hw : w.users = d.withAdmin id roleId stamp email digest)
    (hverified : s.verify digest password = false) : s.Refusal w email password :=
  .mismatch (.fresh id email digest stamp)
    (hw ▸ Directory.findByEmail_withAdmin hid hunknown roleId stamp digest) hverified

/-- Whoever was just seeded logs in as an administrator, if the digest accepts the password and a
session can be issued. -/
theorem run_authenticate_of_seeded (hid : d.Unused id) (hunknown : d.findByEmail email = none)
    (hw : w.users = d.withAdmin id roleId stamp email digest) (hemail : email ≠ "")
    (hpassword : password ≠ "") (hverified : s.verify digest password = true)
    (hhealthy : w.Healthy) (hfree : w.sessions.get? w.ids.next.1 = none)
    (hexpiry : (w.now.add? s.sessionTtl).isSome = true) {typed : String}
    (htyped : Text.trimmed typed = email) (client : Metadata) :
    ∃ user session w', (s.authenticate typed password client).run w = (.ok (user, session), w') ∧
      user.id = id ∧ user.roleNames = ["admin"] := by
  obtain ⟨expiry, hexpiry⟩ := Option.isSome_iff_exists.1 hexpiry
  have hadmits : s.Admits w (Text.trimmed typed) password (.fresh id email digest stamp) := by
    rw [htyped]
    exact admits_seeded hid hunknown hw hverified
  have hrun := run_authenticate_of_admits hhealthy (not_or.2 ⟨htyped ▸ hemail, hpassword⟩) hadmits
    hexpiry hfree client
  refine ⟨_, _, _, hrun, rfl, ?_⟩
  show Role.names (w.users.rolesOf id) = ["admin"]
  rw [hw, Directory.rolesOf_withAdmin hid]
  rfl

end Service

/-! ## Seeding a directory -/

namespace Directory

section Calls

variable {d d' : Directory} {id roleId : Uuid} {hash : String → String} {stamp : Instant}
  {email password : String} {u : User}

/-- An active account with the role of administrators has come to the others, whose rows and roles
are as before. -/
structure Gains (d d' : Directory) (admin : User) : Prop where
  active : admin.isActive = true
  visible : admin.deletedAt = none
  rows : d'.users.rows = d.users.rows ++ [admin]
  roles : (d'.rolesOf admin.id).map Role.name = ["admin"]
  others : ∀ k, k ≠ admin.id → d'.rolesOf k = d.rolesOf k

/-- Without an email or a password nothing is seeded. -/
theorem seedAdmin_of_blank (h : Text.trimmed email = "" ∨ password = "") :
    d.seedAdmin hash id roleId stamp email password =
      .error (.invalidRequest "seed admin email and password must be set") := if_pos h

/-- Who has the email already is left alone. -/
theorem seedAdmin_of_found (hemail : Text.trimmed email ≠ "") (hpassword : password ≠ "")
    (hfound : d.findByEmail (Text.trimmed email) = some u) :
    d.seedAdmin hash id roleId stamp email password = .ok (u, d) := by
  unfold seedAdmin
  dsimp only
  rw [if_neg (not_or.2 ⟨hemail, hpassword⟩), hfound]

theorem gains_withAdmin (hid : d.Unused id) (roleId : Uuid) (stamp : Instant)
    (email digest : String) :
    d.Gains (d.withAdmin id roleId stamp email digest) (.fresh id email digest stamp) where
  active := rfl
  visible := rfl
  rows := Table.rows_put_of_get?_eq_none hid.unstored
  roles := congrArg (List.map Role.name) (rolesOf_withAdmin hid roleId stamp email digest)
  others := fun _ hk => if_neg hk

/-- **Whoever was seeded is found** by the email from then on. -/
theorem findByEmail_of_seedAdmin_eq_ok (hid : d.Unused id)
    (h : d.seedAdmin hash id roleId stamp email password = .ok (u, d')) :
    d'.findByEmail (Text.trimmed email) = some u := by
  simp only [seedAdmin] at h
  split at h
  · cases h
  · split at h
    · next hfound =>
      cases h
      exact hfound
    · next hunknown =>
      cases h
      exact findByEmail_withAdmin hid hunknown roleId stamp (hash password)

theorem emailsUnique_of_seedAdmin_eq_ok (hd : d.EmailsUnique)
    (h : d.seedAdmin hash id roleId stamp email password = .ok (u, d')) : d'.EmailsUnique := by
  refine emailsUnique_administer (e := .seedAdmin hash id roleId stamp email password) hd ?_ ?_
  · rintro ⟨v, hv, -⟩
    cases hv
  · rw [Event.administer, h]
    rfl

/-! ### Again and again -/

/-- A request for an administrator. -/
structure SeedCall where
  hash : String → String
  id : Uuid
  roleId : Uuid
  stamp : Instant
  email : String
  password : String

/-- What some requests are answered, one after the other, and the directory after them. -/
def seedAll (d : Directory) : List SeedCall → List (Except Fault User) × Directory
  | [] => ([], d)
  | c :: cs =>
    match d.seedAdmin c.hash c.id c.roleId c.stamp c.email c.password with
    | .error f => (.error f :: (d.seedAll cs).1, (d.seedAll cs).2)
    | .ok (u, d') => (.ok u :: (d'.seedAll cs).1, (d'.seedAll cs).2)

/-- **Seeding is safe to repeat**, any number of times: who has the email is returned each time, and
nothing changes. -/
theorem seedAll_of_found (hemail : email ≠ "") (hfound : d.findByEmail email = some u)
    {cs : List SeedCall} (hcs : ∀ c ∈ cs, Text.trimmed c.email = email ∧ c.password ≠ "") :
    d.seedAll cs = (cs.map fun _ => .ok u, d) := by
  induction cs with
  | nil => rfl
  | cons c cs ih =>
      obtain ⟨⟨hsame, hpassword⟩, hrest⟩ := List.forall_mem_cons.1 hcs
      rw [seedAll, seedAdmin_of_found (hsame ▸ hemail) hpassword (hsame ▸ hfound)]
      dsimp only
      rw [ih hrest]
      rfl

end Calls

/-! ### All in all -/

/-- **What seeding does, whatever is stored.** Let no two accounts of a directory share an email,
deleted ones apart, and let the identifier for the new account be unused.

* Without an email or a password the request is invalid, and the world stays as it is.
* Else an account with the email is returned, and emails are as unique as before. If there was one
  already, it is returned as it is stored, whatever the password and whether or not it is active,
  and nothing changes.
* If there was none but deleted ones, the directory gains an active account with the role of
  administrators. From then on the email, with any blanks around it, and the password log it in with
  this role, in every world with this directory, if the digest accepts the password and a session
  can be issued.
* Any number of further requests for the email return the same account and change nothing, whatever
  their passwords, if these are not empty. -/
theorem seedAdmin_settles {d : Directory} {id : Uuid} (hd : d.EmailsUnique) (hid : d.Unused id)
    (hash : String → String) (roleId : Uuid) (stamp : Instant) (email password : String) :
    (Text.trimmed email = "" ∨ password = "" →
      d.seedAdmin hash id roleId stamp email password =
          .error (.invalidRequest "seed admin email and password must be set") ∧
        ∀ w : World, w.users = d →
          w.after (.seedAdmin hash id roleId stamp email password) = w) ∧
    (Text.trimmed email ≠ "" → password ≠ "" → ∃ admin d',
      d.seedAdmin hash id roleId stamp email password = .ok (admin, d') ∧
      admin.email = Text.trimmed email ∧ d'.EmailsUnique ∧
      (∀ u ∈ d.users.rows, u.email = Text.trimmed email → u.deletedAt = none →
        admin = u ∧ d' = d) ∧
      ((∀ u ∈ d.users.rows, u.email = Text.trimmed email → u.deletedAt ≠ none) →
        admin.id = id ∧ d.Gains d' admin ∧
        ∀ (s : Service) (w : World) (typed : String) (client : Metadata), w.users = d' →
          s.verify (hash password) password = true → w.Healthy →
          w.sessions.get? w.ids.next.1 = none → (w.now.add? s.sessionTtl).isSome = true →
          Text.Pads typed (Text.trimmed email) →
          ∃ user session w',
            (s.authenticate typed password client).run w = (.ok (user, session), w') ∧
            user.id = id ∧ user.roleNames = ["admin"]) ∧
      ∀ cs : List SeedCall,
        (∀ c ∈ cs, Text.Pads c.email (Text.trimmed email) ∧ c.password ≠ "") →
        d'.seedAll cs = (cs.map fun _ => .ok admin, d')) := by
  have hpads : ∀ {typed}, Text.Pads typed (Text.trimmed email) →
      Text.trimmed typed = Text.trimmed email := fun h =>
    h.trimmed_eq.trans (Text.trimmed_trimmed email)
  refine ⟨fun hblank => ⟨seedAdmin_of_blank hblank, ?_⟩, fun hemail hpassword => ?_⟩
  · rintro w rfl
    simp only [World.after, Event.administer, seedAdmin_of_blank hblank]
    rfl
  · -- the account that is returned, the old one or the new one
    obtain ⟨admin, d', hseed⟩ :
        ∃ admin d', d.seedAdmin hash id roleId stamp email password = .ok (admin, d') := by
      cases hfind : d.findByEmail (Text.trimmed email) with
      | none => exact ⟨_, _, seedAdmin_of_unknown hemail hpassword hfind hash id roleId stamp⟩
      | some u => exact ⟨u, d, seedAdmin_of_found hemail hpassword hfind⟩
    have hfound := findByEmail_of_seedAdmin_eq_ok hid hseed
    refine ⟨admin, d', hseed, (email_of_findByEmail hfound).1,
      emailsUnique_of_seedAdmin_eq_ok hd hseed, fun u hu hsame hvisible => ?_, fun hnobody => ?_,
      fun cs hcs => ?_⟩
    · have hold := (findByEmail_eq_some_iff hd).2 ⟨hu, hsame, hvisible⟩
      rw [seedAdmin_of_found hemail hpassword hold] at hseed
      cases hseed
      exact ⟨rfl, rfl⟩
    · have hunknown := findByEmail_eq_none_iff.2 hnobody
      rw [seedAdmin_of_unknown hemail hpassword hunknown] at hseed
      cases hseed
      refine ⟨rfl, gains_withAdmin hid roleId stamp _ _, ?_⟩
      intro s w typed client hw hverified hhealthy hfree hexpiry htyped
      exact Service.run_authenticate_of_seeded hid hunknown hw hemail hpassword hverified hhealthy
        hfree hexpiry (hpads htyped) client
    · refine seedAll_of_found hemail hfound fun c hc => ?_
      obtain ⟨hpad, hpassword'⟩ := hcs c hc
      exact ⟨hpads hpad, hpassword'⟩

/-- A directory whose only account has been deleted. -/
def bygone : Directory := empty.insert { World.lodger with deletedAt := some .epoch }

/-- An administrator is seeded with the email of an account that was deleted, logs in, and is not
seeded again. -/
theorem seedAdmin_settles_bygone :
    bygone.EmailsUnique ∧ bygone.Unused (.ofNat 9) ∧ ∃ admin d',
      bygone.seedAdmin id (.ofNat 9) (.ofNat 10) .epoch " a@b.com" "secret" = .ok (admin, d') ∧
      d'.users.rows.length = 2 ∧
      d'.seedAll [⟨id, .ofNat 11, .ofNat 12, .epoch, "a@b.com\t", "other"⟩] = ([.ok admin], d') ∧
      ∃ user session w',
        (Service.authenticate ⟨{}, fun digest password => digest == password⟩ "\na@b.com " "secret"
          {}).run { World.blank with users := d' } = (.ok (user, session), w') ∧
        user.id = .ofNat 9 ∧ user.roleNames = ["admin"] := by
  have hd : bygone.EmailsUnique := by
    unfold EmailsUnique
    decide
  have hid : bygone.Unused (.ofNat 9) := ⟨by decide, rfl⟩
  have hemail : Text.trimmed " a@b.com" = "a@b.com" := by decide
  obtain ⟨-, hseed⟩ := seedAdmin_settles hd hid id (.ofNat 10) .epoch " a@b.com" "secret"
  rw [hemail] at hseed
  obtain ⟨admin, d', hadmin, -, -, -, hnew, hagain⟩ := hseed (by decide) (by decide)
  obtain ⟨-, hgains, hlogin⟩ := hnew (by decide)
  refine ⟨hd, hid, admin, d', hadmin, ?_, ?_, ?_⟩
  · rw [hgains.rows]
    rfl
  · refine hagain _ fun c hc => ?_
    obtain rfl := List.mem_singleton.1 hc
    exact ⟨⟨[], ['\t'], List.forall_mem_nil _, List.forall_mem_singleton.2 rfl, by decide⟩,
      by decide⟩
  · have hfree : World.blank.sessions.get? World.blank.ids.next.1 = none := by decide
    have hexpiry : (World.blank.now.add? (Span.ofDays 7)).isSome = true := by decide
    exact hlogin _ _ _ _ rfl (by decide) (fun _ => rfl) hfree hexpiry
      ⟨['\n'], [' '], List.forall_mem_singleton.2 rfl, List.forall_mem_singleton.2 rfl, by decide⟩

end Directory

end SessionAuth
