import SessionAuth.Proofs.Api.Attempt
import SessionAuth.Proofs.Service.Event

set_option autoImplicit false

/-! # Refusals cannot be told apart

Whoever tries to log in and is refused learns nothing from the answer. It does not say whether
there is an account with the email, whether this account has been deleted or switched off, or
whether only the password was wrong, and it is the same answer from every service in every state:
`Service.refusals_indistinguishable`. Nor does a refusal leave a trace, so that nothing can be
learned from a later answer either.
-/

namespace SessionAuth.Service

/-- **Refusals cannot be told apart.** Let two requests to log in bring a login each, and let the
stores of two worlds not fail, the worlds having whatever users. If the credentials are refused in
both cases, for whatever reasons, then

* both requests get the same answer, which refuses the credentials and hands out no cookie, and both
  worlds stay as they were: nothing is stored and no identifier is drawn,
* also within the service, in every world whose stores do not fail, the only outcome for refused
  credentials, and for a blank email or an empty password, is that they are invalid; this fault
  has no details, and the world stays as it was. -/
theorem refusals_indistinguishable {s₁ s₂ : Service} {w₁ w₂ : World} (hw₁ : w₁.Healthy)
    (hw₂ : w₂.Healthy) {r₁ r₂ : Request} (hmethod₁ : r₁.method = "POST")
    (hmethod₂ : r₂.method = "POST") (hpath₁ : r₁.path = "/api/v1/auth/login")
    (hpath₂ : r₂.path = "/api/v1/auth/login") {login₁ login₂ : LoginRequest}
    (hbrings₁ : Login.Brings r₁ login₁) (hbrings₂ : Login.Brings r₂ login₂)
    (hrefusal₁ : s₁.Refusal w₁ (Text.trimmed login₁.email) login₁.password)
    (hrefusal₂ : s₂.Refusal w₂ (Text.trimmed login₂.email) login₂.password) :
    (∃ answer, (s₁.respond r₁).run w₁ = (.ok answer, w₁) ∧
      (s₂.respond r₂).run w₂ = (.ok answer, w₂) ∧
      answer.status = 401 ∧ answer.getAll "set-cookie" = []) ∧
    ∀ (s : Service) (w : World) (email password : String) (client : Metadata), w.Healthy →
      Text.trimmed email = "" ∨ password = "" ∨ s.Refusal w (Text.trimmed email) password →
        (s.authenticate email password client).run w = (.error .invalidCredentials, w) := by
  constructor
  · have hrun₁ := run_respond_of_refusal (hw₁ _) hmethod₁ hpath₁ hbrings₁ hrefusal₁
    have hrun₂ := run_respond_of_refusal (hw₂ _) hmethod₂ hpath₂ hbrings₂ hrefusal₂
    have hcookie : refusalAnswer.getAll "set-cookie" = [] := by decide
    exact ⟨refusalAnswer, hrun₁, hrun₂, rfl, hcookie⟩
  · intro s w email password client hw hrefused
    rcases hrefused with hemail | hpassword | hrefusal
    · exact run_authenticate_of_blank (Or.inl hemail) client
    · exact run_authenticate_of_blank (Or.inr hpassword) client
    · exact run_authenticate_of_refusal (hw _) hrefusal client

/-- The user of the small world is refused when there is no such user yet, and, with the right
password, after having been switched off; the answer is the same. -/
theorem refusals_indistinguishable_small :
    ∃ answer, (plain.respond lodgerLogin).run World.blank = (.ok answer, World.blank) ∧
      (plain.respond lodgerLogin).run
        (World.small.after (.setActive World.lodger.id false .epoch)) =
          (.ok answer, World.small.after (.setActive World.lodger.id false .epoch)) ∧
      answer.status = 401 ∧ answer.getAll "set-cookie" = [] := by
  have hpath : lodgerLogin.path = "/api/v1/auth/login" := by decide
  have hemail : Text.trimmed "a@b.com" = "a@b.com" := by decide
  have hunknown : plain.Refusal World.blank (Text.trimmed "a@b.com") "secret" :=
    .unknown fun u hu => by cases hu
  have hinactive : plain.Refusal (World.small.after (.setActive World.lodger.id false .epoch))
      (Text.trimmed "a@b.com") "secret" := by
    rw [hemail]
    exact .inactive { World.lodger with isActive := false } (by decide) rfl
  exact (refusals_indistinguishable (fun _ => rfl) (fun _ => rfl) rfl rfl hpath hpath
    lodgerLogin_brings lodgerLogin_brings hunknown hinactive).1

end SessionAuth.Service
