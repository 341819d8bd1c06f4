import SessionAuth.Proofs.Api.Attempt

set_option autoImplicit false

/-! # The form of a login

A login over HTTP is checked for its form before its credentials are looked at: the email, trimmed,
has to be an address of bounded length, and there has to be a password. Authentication trims the
email as well, and refuses an email or a password that is empty. For a login that has passed the
first check the second one is idle: authentication takes the email and the password as they are
(`Service.authenticate_eq_asGiven`), and so logging in over HTTP would be the same program without
the second check (`Service.login_eq_asGiven`).
-/

namespace SessionAuth

/-- What is accepted is what a request brings, with the email trimmed. -/
theorem Login.accept_eq_ok_iff {r : Request} {login : LoginRequest} :
    accept r = .ok login ↔
      ∃ raw, Brings r raw ∧ login = { raw with email := Text.trimmed raw.email } := by
  constructor
  · intro h
    by_cases hbrings : ∃ raw, Brings r raw
    · obtain ⟨raw, hraw⟩ := hbrings
      rw [accept_of_brings hraw, Except.ok.injEq] at h
      exact ⟨raw, hraw, h.symm⟩
    · obtain ⟨f, hrefused, -⟩ := accept_of_not_brings (not_exists.1 hbrings)
      rw [hrefused] at h
      cases h
  · rintro ⟨raw, hraw, rfl⟩
    exact accept_of_brings hraw

/-- An action that is over at once goes on at once. -/
theorem Action.ofExcept_ok_bind {ε α β : Type} (a : α) (f : α → Action ε β) :
    ofExcept (.ok a) >>= f = f a := rfl

theorem Action.ofExcept_error_bind {ε α β : Type} (e : ε) (f : α → Action ε β) :
    ofExcept (.error e) >>= f = ofExcept (.error e) := rfl

namespace Service

variable {email password : String}

/-- Authentication of an email and a password that are taken as they are given. -/
def authenticateAsGiven (s : Service) (email password : String) (client : Metadata) :
    Action Fault (User × Session) := do
  let user ← s.checkCredentials email password
  let roles ← Action.listRoles user.id
  let session ← s.issueSession user.id client
  return ({ user with roles }, session)

/-- An email and a password that are not empty are taken as they are, if the email is trimmed. -/
theorem authenticate_eq_asGiven (htrimmed : Text.trimmed email = email) (hemail : email ≠ "")
    (hpassword : password ≠ "") (s : Service) (client : Metadata) :
    s.authenticate email password client = s.authenticateAsGiven email password client := by
  unfold authenticate
  dsimp only
  rw [htrimmed, if_neg (not_or.2 ⟨hemail, hpassword⟩)]
  rfl

/-- So are those of a login that has the right form. -/
theorem authenticate_eq_asGiven_of_checkLogin
    (h : Email.checkLogin (Text.trimmed email) password = .ok ()) (s : Service)
    (client : Metadata) :
    s.authenticate (Text.trimmed email) password client =
      s.authenticateAsGiven (Text.trimmed email) password client := by
  obtain ⟨hemail, hpassword⟩ := not_or.1 (Email.not_blank_of_checkLogin h)
  exact authenticate_eq_asGiven (Text.trimmed_trimmed email) hemail hpassword s client

/-- **A login is checked once**: without the second check it would be the same program. -/
theorem login_eq_asGiven (s : Service) (r : Request) :
    s.login r = Action.ofExcept (Login.accept r) >>= fun login =>
      s.authenticateAsGiven login.email login.password
        (Login.client s.auth.trustForwardedFor r) >>= s.handOut := by
  rw [login]
  cases haccept : Login.accept r with
  | error f => rw [Action.ofExcept_error_bind, Action.ofExcept_error_bind]
  | ok login =>
      obtain ⟨raw, hbrings, rfl⟩ := Login.accept_eq_ok_iff.1 haccept
      rw [Action.ofExcept_ok_bind, Action.ofExcept_ok_bind,
        authenticate_eq_asGiven_of_checkLogin hbrings.formed]
      exact bind_congr fun granted => rfl

/-- **Logins of the right form.** A text is an address exactly if it is that of a mailbox, and then
of one mailbox only. Whatever email and password are typed in,

* the check of a login passes exactly if there is a password and the trimmed email is the text of a
  mailbox and has at most 320 characters,
* and if it passes, then trimming the email again changes nothing, neither the email nor the
  password is empty, and authentication takes both as they are.

So a login over HTTP, of any body, would be the same program if authentication neither trimmed the
email nor asked for what is empty. -/
theorem login_form_exact :
    (∀ text : String, Email.isAddress text.toList = true ↔ ∃ m : Email.Mailbox, m.text = text) ∧
    Function.Injective Email.Mailbox.text ∧
    (∀ email password : String,
      (Email.checkLogin (Text.trimmed email) password = .ok () ↔
        password ≠ "" ∧ (∃ m : Email.Mailbox, m.text = Text.trimmed email) ∧
          (Text.trimmed email).length ≤ 320) ∧
      (Email.checkLogin (Text.trimmed email) password = .ok () →
        Text.trimmed (Text.trimmed email) = Text.trimmed email ∧
        ¬ (Text.trimmed (Text.trimmed email) = "" ∨ password = "") ∧
        ∀ (s : Service) (client : Metadata),
          s.authenticate (Text.trimmed email) password client =
            s.authenticateAsGiven (Text.trimmed email) password client)) ∧
    ∀ (s : Service) (r : Request),
      s.login r = Action.ofExcept (Login.accept r) >>= fun login =>
        s.authenticateAsGiven login.email login.password
          (Login.client s.auth.trustForwardedFor r) >>= s.handOut := by
  refine ⟨fun _ => Email.isAddress_iff, Email.Mailbox.text_injective, fun email password => ?_,
    login_eq_asGiven⟩
  refine ⟨?_, fun h => ⟨Text.trimmed_trimmed email, ?_, authenticate_eq_asGiven_of_checkLogin h⟩⟩
  · rw [Email.checkLogin_eq_ok_iff, Email.isAddress_iff]
  · rw [Text.trimmed_trimmed]
    exact Email.not_blank_of_checkLogin h

/-- A login with blanks around an address of three labels is accepted, and taken as it is. -/
theorem login_form_small :
    Email.checkLogin (Text.trimmed " a.b@c.d.org\t") "secret" = .ok () ∧
      (∃ m : Email.Mailbox, m.text = "a.b@c.d.org") ∧
      ∀ client, plain.authenticate (Text.trimmed " a.b@c.d.org\t") "secret" client =
        plain.authenticateAsGiven "a.b@c.d.org" "secret" client := by
  have hcheck : Email.checkLogin (Text.trimmed " a.b@c.d.org\t") "secret" = .ok () := by decide
  have htrimmed : Text.trimmed " a.b@c.d.org\t" = "a.b@c.d.org" := by decide
  obtain ⟨-, -, hlogins, -⟩ := login_form_exact
  obtain ⟨hiff, hidle⟩ := hlogins " a.b@c.d.org\t" "secret"
  obtain ⟨-, hmailbox, -⟩ := hiff.1 hcheck
  obtain ⟨-, -, hgiven⟩ := hidle hcheck
  rw [htrimmed] at hmailbox
  refine ⟨hcheck, hmailbox, fun client => ?_⟩
  rw [hgiven plain client, htrimmed]

end Service

end SessionAuth
